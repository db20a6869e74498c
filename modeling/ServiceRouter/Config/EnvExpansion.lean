import ServiceRouter.Config.EnvResolver
import ServiceRouter.Foundation.Template

/-!
# Expansion of environment variables as a substitution

The configuration text is a template whose holes are the placeholders.
`expandSimultaneously` fills them all at once.  `resolveEnvVars` replaces
globally, name after name, in a text that already holds earlier values; the
two agree as long as no value completes a placeholder text that is replaced
after it.
-/

namespace ServiceRouter

open Foundation

/-! ## The text as a template -/

def envMark (name : List Char) : List Char := '$' :: '{' :: name ++ ['}']

def envPiecesFrom : Nat → List Char → List (Piece (List Char))
  | _, [] => []
  | skip + 1, _ :: rest => envPiecesFrom skip rest
  | 0, c :: rest =>
      match placeholderAt (c :: rest) with
      | some name => .hole name :: envPiecesFrom (name.length + 2) rest
      | none => .char c :: envPiecesFrom 0 rest

def envPieces (text : String) : List (Piece (List Char)) :=
  envPiecesFrom 0 text.toList

def envValue (envVar : String → Option String) (name : List Char) :
    List Char :=
  ((envVar (String.ofList name)).getD "").toList

/-- Every placeholder is replaced in the text as it was read. -/
def expandSimultaneously (envVar : String → Option String) (text : String) :
    Except ConfigError String :=
  match (placeholders text).find? fun name => (envVar name).isNone with
  | some name => .error (.missingEnvVar name)
  | none => .ok (String.ofList (Piece.write (envValue envVar) (envPieces text)))

def filledEnv (value : List Char → List Char) (done : List (List Char))
    (name : List Char) : List Char :=
  if name ∈ done then value name else envMark name

/-- At its turn, each name either has its own placeholder as its value or
occurs as a placeholder only where the text as it was read has one. -/
def undisturbedFrom (value : List Char → List Char)
    (pieces : List (Piece (List Char))) :
    List (List Char) → List (List Char) → Bool
  | _, [] => true
  | done, name :: names =>
      (value name = envMark name ||
          Piece.onlyInHoles envMark (filledEnv value done) name pieces) &&
        undisturbedFrom value pieces (name :: done) names

def undisturbed (envVar : String → Option String) (text : String) : Bool :=
  undisturbedFrom (envValue envVar) (envPieces text) []
    (placeholdersFrom 0 text.toList)

private theorem envMark_ne_nil (name : List Char) : envMark name ≠ [] := by
  simp [envMark]

private theorem placeholderText_toList (name : List Char) :
    (placeholderText (String.ofList name)).toList = envMark name := by
  simp [placeholderText, envMark]

private theorem takeWhile_split {name : List Char} (hclosed : '}' ∉ name)
    (rest : List Char) :
    (name ++ '}' :: rest).takeWhile (· ≠ '}') = name := by
  rw [List.takeWhile_append_of_pos]
  · simp
  · intro c hc
    simp only [decide_eq_true_eq]
    exact fun h => hclosed (h ▸ hc)

theorem placeholderAt_envMark {name : List Char} (hne : name ≠ [])
    (hclosed : '}' ∉ name) (rest : List Char) :
    placeholderAt (envMark name ++ rest) = some name := by
  have hsplit : envMark name ++ rest = '$' :: '{' :: (name ++ '}' :: rest) := by
    simp [envMark]
  rw [hsplit]
  simp only [placeholderAt, takeWhile_split hclosed]
  simp [hne]

/-- A placeholder is the mark of a nonempty name without closing brace. -/
theorem placeholderAt_eq_some {text name : List Char}
    (h : placeholderAt text = some name) :
    name ≠ [] ∧ '}' ∉ name ∧ ∃ rest, text = envMark name ++ rest := by
  unfold placeholderAt at h
  split at h
  case h_2 => simp at h
  case h_1 rest =>
    by_cases hclose : '}' ∈ rest
    · obtain ⟨first, after, rfl, hfirst⟩ := List.eq_append_cons_of_mem hclose
      rw [takeWhile_split hfirst] at h
      simp only [List.length_append, List.length_cons, Bool.or_eq_true,
        List.isEmpty_iff, decide_eq_true_eq] at h
      split at h
      · simp at h
      · rename_i hname
        cases h
        exact ⟨fun hempty => hname (Or.inl hempty), hfirst, after,
          by simp [envMark]⟩
    · have hall : rest.takeWhile (· ≠ '}') = rest := by
        rw [List.takeWhile_eq_self_iff]
        intro c hc
        simp only [decide_eq_true_eq]
        exact fun hc' => hclose (hc' ▸ hc)
      rw [hall] at h
      simp at h

theorem write_envPiecesFrom (skip : Nat) (text : List Char) :
    Piece.write envMark (envPiecesFrom skip text) = text.drop skip := by
  induction skip, text using envPiecesFrom.induct with
  | case1 skip => simp [envPiecesFrom, Piece.write]
  | case2 skip c rest ih => simpa [envPiecesFrom] using ih
  | case3 c rest name h ih =>
      obtain ⟨_, _, after, htext⟩ := placeholderAt_eq_some h
      simp only [envPiecesFrom, h, Piece.write, ih, List.drop_zero]
      simp only [envMark, List.cons_append, List.cons.injEq] at htext
      rw [htext.1, htext.2]
      simp [envMark]
  | case4 c rest h ih => simp [envPiecesFrom, h, Piece.write, ih]

theorem holes_envPiecesFrom (skip : Nat) (text : List Char) :
    Piece.holes (envPiecesFrom skip text) = placeholdersFrom skip text := by
  induction skip, text using envPiecesFrom.induct with
  | case1 skip => simp [envPiecesFrom, placeholdersFrom, Piece.holes]
  | case2 skip c rest ih => simpa [envPiecesFrom, placeholdersFrom] using ih
  | case3 c rest name h ih =>
      simp [envPiecesFrom, placeholdersFrom, h, Piece.holes, ih]
  | case4 c rest h ih =>
      simp [envPiecesFrom, placeholdersFrom, h, Piece.holes, ih]

/-! ## The loop over the placeholders -/

/-- One step of the loop, for a variable that is set. -/
def replaceMark (value : List Char → List Char) (result name : List Char) :
    List Char :=
  replaceFrom (envMark name) (value name) 0 result

/-- Any loop whose steps do what a step of `resolveEnvVars` does. -/
private theorem foldlM_replace {envVar : String → Option String}
    {step : String → String → Except ConfigError String}
    (hunset : ∀ result name, envVar name = none →
      step result name = .error (.missingEnvVar name))
    (hset : ∀ result name value, envVar name = some value →
      step result name = .ok (replace result (placeholderText name) value))
    (names : List (List Char)) (result : String) :
    (names.map String.ofList).foldlM step result =
      match (names.map String.ofList).find?
          fun name => (envVar name).isNone with
      | some name => .error (.missingEnvVar name)
      | none => .ok (String.ofList (names.foldl
          (replaceMark (envValue envVar)) result.toList)) := by
  induction names generalizing result with
  | nil => simp [pure, Except.pure]
  | cons name names ih =>
      simp only [List.map_cons, List.foldlM_cons]
      cases hname : envVar (String.ofList name) with
      | none => simp [bind, Except.bind, hunset _ _ hname, hname]
      | some value =>
          have hstep : (replace result
              (placeholderText (String.ofList name)) value).toList =
              replaceMark (envValue envVar) result.toList name := by
            simp [replace, placeholderText_toList, replaceMark, envValue,
              hname]
          simp only [bind, Except.bind, hset _ _ _ hname, hname,
            List.find?_cons, Option.isNone_some, List.foldl_cons, ← hstep]
          exact ih _

theorem resolveEnvVars_eq (envVar : String → Option String) (text : String) :
    resolveEnvVars envVar text =
      match (placeholders text).find? fun name => (envVar name).isNone with
      | some name => .error (.missingEnvVar name)
      | none => .ok (String.ofList ((placeholdersFrom 0 text.toList).foldl
          (replaceMark (envValue envVar)) text.toList)) := by
  apply foldlM_replace
  · intro result name h
    simp only [h]
  · intro result name value h
    simp only [h]

theorem resolveEnvVars_error_iff (envVar : String → Option String)
    (text : String) (error : ConfigError) :
    resolveEnvVars envVar text = .error error ↔
      ∃ name, (placeholders text).find? (fun name => (envVar name).isNone) =
        some name ∧ error = .missingEnvVar name := by
  rw [resolveEnvVars_eq]
  cases (placeholders text).find? fun name => (envVar name).isNone with
  | none => simp
  | some name => simp [eq_comm]

private theorem filledEnv_nil (value : List Char → List Char) :
    filledEnv value [] = envMark := by
  funext name
  simp [filledEnv]

private theorem filledEnv_cons (value : List Char → List Char)
    (done : List (List Char)) (name : List Char) :
    Function.update (filledEnv value done) name (value name) =
      filledEnv value (name :: done) := by
  funext other
  by_cases h : other = name
  · simp [filledEnv, h]
  · simp [filledEnv, h]

private theorem foldl_replaceMark {value : List Char → List Char}
    {pieces : List (Piece (List Char))} {done names : List (List Char)}
    (h : undisturbedFrom value pieces done names = true) :
    names.foldl (replaceMark value) (Piece.write (filledEnv value done) pieces) =
      Piece.write (filledEnv value (names.reverse ++ done)) pieces := by
  induction names generalizing done with
  | nil => rfl
  | cons name names ih =>
      simp only [undisturbedFrom, Bool.and_eq_true, Bool.or_eq_true,
        decide_eq_true_eq] at h
      have hstep : replaceMark value (Piece.write (filledEnv value done) pieces)
          name = Piece.write (filledEnv value (name :: done)) pieces := by
        rw [replaceMark, ← filledEnv_cons]
        cases h.1 with
        | inl hown =>
            rw [hown, replaceFrom_self (envMark_ne_nil name)]
            apply Piece.write_congr
            intro other _
            by_cases hother : other = name
            · simp [filledEnv, hother, hown]
            · rw [Function.update_of_ne hother]
        | inr honly =>
            apply Piece.replaceFrom_write (envMark_ne_nil name) _ honly
            unfold filledEnv
            split
            · exact Or.inr rfl
            · exact Or.inl rfl
      rw [List.foldl_cons, hstep, ih h.2, List.reverse_cons, List.append_assoc,
        List.singleton_append]

theorem resolveEnvVars_of_undisturbed {envVar : String → Option String}
    {text : String} (h : undisturbed envVar text = true) :
    resolveEnvVars envVar text = expandSimultaneously envVar text := by
  have hread : Piece.write (filledEnv (envValue envVar) []) (envPieces text) =
      text.toList := by
    rw [filledEnv_nil]
    exact write_envPiecesFrom 0 text.toList
  have hloop := foldl_replaceMark h
  rw [hread] at hloop
  have hfilled : Piece.write (filledEnv (envValue envVar)
      ((placeholdersFrom 0 text.toList).reverse ++ [])) (envPieces text) =
      Piece.write (envValue envVar) (envPieces text) := by
    apply Piece.write_congr
    intro name hname
    rw [envPieces, holes_envPiecesFrom] at hname
    simp [filledEnv, hname]
  rw [resolveEnvVars_eq, expandSimultaneously, hloop, hfilled]

/-! ## Two placeholders -/

private theorem placeholdersFrom_skip (first rest : List Char) :
    placeholdersFrom first.length (first ++ rest) = placeholdersFrom 0 rest := by
  induction first with
  | nil => rfl
  | cons c first ih => simpa [placeholdersFrom] using ih

private theorem envPiecesFrom_skip (first rest : List Char) :
    envPiecesFrom first.length (first ++ rest) = envPiecesFrom 0 rest := by
  induction first with
  | nil => rfl
  | cons c first ih => simpa [envPiecesFrom] using ih

/-- Text in which no placeholder starts, whatever follows it other than an
opening brace. -/
def ClosedGap (gap : List Char) : Prop :=
  ∀ name rest, name ≠ [] → '}' ∉ name → rest.head? ≠ some '{' →
    startsIn (envMark name) gap rest = false

private theorem placeholderAt_ne_none {c : Char} {rest : List Char}
    (hc : c ≠ '}') (hclose : '}' ∈ rest) :
    placeholderAt ('$' :: '{' :: c :: rest) ≠ none := by
  obtain ⟨first, after, rfl, hfirst⟩ := List.eq_append_cons_of_mem hclose
  have hmark : '$' :: '{' :: c :: (first ++ '}' :: after) =
      envMark (c :: first) ++ after := by
    simp [envMark]
  rw [hmark, placeholderAt_envMark (List.cons_ne_nil c first)]
  · simp
  · simp [hc.symm, hfirst]

/-- Where the text has no placeholder, an opening that would become one with
other text behind the gap is already closed in the gap. -/
private theorem not_envMark_prefix {c : Char} {gap name rest other tail : List Char}
    (hat : placeholderAt (c :: (gap ++ (envMark name ++ rest))) = none)
    (hne : other ≠ []) (hclosed : '}' ∉ other)
    (hhead : tail.head? ≠ some '{') :
    ¬envMark other <+: c :: (gap ++ tail) := by
  intro hstart
  cases other with
  | nil => exact hne rfl
  | cons o other =>
      have ho : o ≠ '}' := fun h => hclosed (h ▸ List.mem_cons_self)
      cases gap with
      | nil =>
          cases tail with
          | nil => simp [envMark] at hstart
          | cons d tail =>
              simp only [envMark, List.cons_append, List.nil_append,
                List.cons_prefix_cons] at hstart
              exact hhead (by simp [← hstart.2.1])
      | cons d gap =>
          simp only [envMark, List.cons_append,
            List.cons_prefix_cons] at hstart
          obtain ⟨rfl, rfl, hstart⟩ := hstart
          cases gap with
          | nil =>
              apply placeholderAt_ne_none (c := '$') (by decide) _ hat
              simp
          | cons e gap =>
              simp only [List.cons_append, List.cons_prefix_cons] at hstart
              apply placeholderAt_ne_none (hstart.1 ▸ ho) _ hat
              simp [envMark]

/-- The text before the first placeholder holds no part of one. -/
theorem exists_first_placeholder {text name : List Char}
    {names : List (List Char)}
    (h : placeholdersFrom 0 text = name :: names) :
    ∃ gap rest, ClosedGap gap ∧ name ≠ [] ∧ '}' ∉ name ∧
      text = gap ++ (envMark name ++ rest) ∧
      placeholdersFrom 0 rest = names ∧
      envPiecesFrom 0 text =
        gap.map Piece.char ++ (Piece.hole name :: envPiecesFrom 0 rest) := by
  induction text with
  | nil => simp [placeholdersFrom] at h
  | cons c text ih =>
      cases hat : placeholderAt (c :: text) with
      | some first =>
          obtain ⟨hne, hclosed, rest, htext⟩ := placeholderAt_eq_some hat
          simp only [placeholdersFrom, hat, List.cons.injEq] at h
          rw [← h.1]
          have htail : text = ('{' :: first ++ ['}']) ++ rest := by
            simpa [envMark] using (List.cons.inj htext).2
          have hlen : first.length + 2 = ('{' :: first ++ ['}']).length := by
            simp
          refine ⟨[], rest, ?_, hne, hclosed, by simpa using htext, ?_, ?_⟩
          · intro _ _ _ _ _
            rfl
          · rw [← h.2, hlen, htail, placeholdersFrom_skip]
          · simp only [envPiecesFrom, hat, List.map_nil, List.nil_append]
            rw [hlen, htail, envPiecesFrom_skip]
      | none =>
          simp only [placeholdersFrom, hat] at h
          obtain ⟨gap, rest, hgap, hne, hclosed, htext, hnames, hpieces⟩ := ih h
          refine ⟨c :: gap, rest, ?_, hne, hclosed, by simp [htext], hnames, ?_⟩
          · intro other tail hother hopen hhead
            rw [htext] at hat
            have hstart := not_envMark_prefix hat hother hopen hhead
            rw [← List.isPrefixOf_iff_prefix, Bool.not_eq_true] at hstart
            rw [startsIn, hstart, hgap other tail hother hopen hhead]
            rfl
          · simp [envPiecesFrom, hat, hpieces]

private theorem envMark_not_startsIn {name first rest : List Char}
    (h : '$' ∉ first) : startsIn (envMark name) first rest = false :=
  startsIn_of_not_mem h

private theorem foldl_replaceMark_fixed (value : List Char → List Char)
    (tail : List Char) {gap fixed : List Char} {names : List (List Char)}
    (hgap : ClosedGap gap) (hfixed : '$' ∉ fixed) (hhead : fixed.head? = some 'x')
    (hnames : ∀ name ∈ names, name ≠ [] ∧ '}' ∉ name) :
    ∃ tail', names.foldl (replaceMark value) (gap ++ (fixed ++ tail)) =
      gap ++ (fixed ++ tail') := by
  induction names generalizing tail with
  | nil => exact ⟨tail, rfl⟩
  | cons name names ih =>
      rw [List.forall_mem_cons] at hnames
      have hopen : (fixed ++ tail).head? ≠ some '{' := by
        rw [List.head?_append, hhead]
        simp
      have hstep : replaceMark value (gap ++ (fixed ++ tail)) name =
          gap ++ (fixed ++
            replaceFrom (envMark name) (value name) 0 tail) := by
        rw [replaceMark, replaceFrom_append
          (hgap name _ hnames.1.1 hnames.1.2 hopen)]
        congr 1
        exact replaceFrom_append (envMark_not_startsIn hfixed)
      rw [List.foldl_cons, hstep]
      exact ih _ hnames.2

theorem mem_placeholdersFrom {skip : Nat} {text name : List Char}
    (h : name ∈ placeholdersFrom skip text) : name ≠ [] ∧ '}' ∉ name := by
  induction skip, text using placeholdersFrom.induct with
  | case1 skip => simp [placeholdersFrom] at h
  | case2 skip c rest ih => exact ih (by simpa [placeholdersFrom] using h)
  | case3 c rest first hat ih =>
      simp only [placeholdersFrom, hat, List.mem_cons] at h
      cases h with
      | inl hfirst =>
          obtain ⟨hne, hclosed, _⟩ := placeholderAt_eq_some hat
          rw [hfirst]
          exact ⟨hne, hclosed⟩
      | inr hlater => exact ih hlater
  | case4 c rest hat ih =>
      simp only [placeholdersFrom, hat] at h
      exact ih h

/-- The first name's value ends in the second placeholder, so that the loop
rewrites it at its next step. -/
def rewritingValue (first second name : List Char) : List Char :=
  if name = first
  then (if first = second then ['x'] else []) ++ envMark second
  else ['x']

def rewritingEnv (first second : List Char) (varName : String) :
    Option String :=
  some (String.ofList (rewritingValue first second varName.toList))

private theorem envValue_rewritingEnv (first second : List Char) :
    envValue (rewritingEnv first second) = rewritingValue first second := by
  funext name
  simp [envValue, rewritingEnv]

private theorem rewritingValue_first (first second : List Char) :
    ∃ lead, rewritingValue first second first = lead ++ envMark second ∧
      '$' ∉ lead ∧ (lead ++ ['x']).head? = some 'x' ∧
      ∀ tail : List Char, tail.head? ≠ some '{' →
        (lead ++ tail).head? ≠ some '{' := by
  by_cases h : first = second
  · exact ⟨['x'], by simp [rewritingValue, h], by simp, by simp, by simp⟩
  · exact ⟨[], by simp [rewritingValue, h], by simp, by simp, by simp⟩

private theorem rewritingValue_second (first second : List Char) :
    ∃ tail, rewritingValue first second second = 'x' :: tail := by
  by_cases h : second = first
  · exact ⟨envMark second, by simp [rewritingValue, h]⟩
  · exact ⟨[], by simp [rewritingValue, h]⟩

theorem resolveEnvVars_rewritingEnv_ne {text : String}
    {first second : List Char} {names : List (List Char)}
    (h : placeholdersFrom 0 text.toList = first :: second :: names) :
    resolveEnvVars (rewritingEnv first second) text ≠
      expandSimultaneously (rewritingEnv first second) text := by
  have hall : ∀ name ∈ first :: second :: names, name ≠ [] ∧ '}' ∉ name :=
    fun name hname => mem_placeholdersFrom (h ▸ hname)
  simp only [List.forall_mem_cons] at hall
  obtain ⟨gap, rest, hgap, _, _, htext, hnames, hpieces⟩ :=
    exists_first_placeholder h
  obtain ⟨lead, hfirst, hleadOpen, hfixedHead, hleadHead⟩ :=
    rewritingValue_first first second
  obtain ⟨more, hsecond⟩ := rewritingValue_second first second
  -- the first step inserts the second placeholder, the second fills it
  have hstep : replaceMark (rewritingValue first second) text.toList first =
      gap ++ (lead ++ (envMark second ++
        replaceFrom (envMark first)
          (rewritingValue first second first) 0 rest)) := by
    rw [htext, replaceMark, replaceFrom_append
        (hgap first _ hall.1.1 hall.1.2 (by simp [envMark])),
      replaceFrom_pattern (envMark_ne_nil first)]
    rw [hfirst, List.append_assoc]
  have hfilled (tail : List Char) :
      replaceMark (rewritingValue first second)
        (gap ++ (lead ++ (envMark second ++ tail))) second =
      gap ++ ((lead ++ ['x']) ++ (more ++
        replaceFrom (envMark second)
          (rewritingValue first second second) 0 tail)) := by
    rw [replaceMark, replaceFrom_append (hgap second _ hall.2.1.1 hall.2.1.2
        (hleadHead _ (by simp [envMark]))),
      replaceFrom_append (envMark_not_startsIn hleadOpen),
      replaceFrom_pattern (envMark_ne_nil second)]
    simp [hsecond]
  have hfixedOpen : '$' ∉ lead ++ ['x'] := by simp [hleadOpen]
  obtain ⟨tail, hloop⟩ := foldl_replaceMark_fixed
    (rewritingValue first second) (more ++
      replaceFrom (envMark second) (rewritingValue first second second) 0
        (replaceFrom (envMark first)
          (rewritingValue first second first) 0 rest))
    hgap hfixedOpen hfixedHead hall.2.2
  have hset : (placeholders text).find?
      (fun name => (rewritingEnv first second name).isNone) = none := by
    simp [rewritingEnv]
  rw [resolveEnvVars_eq, expandSimultaneously, hset, h, envValue_rewritingEnv,
    List.foldl_cons, List.foldl_cons, hstep, hfilled, hloop, envPieces,
    hpieces, Piece.write_chars, Piece.write, hfirst]
  intro hsame
  have hchars := congrArg String.toList (Except.ok.inj hsame)
  simp [envMark] at hchars

/-! ## One placeholder -/

private theorem onlyInHoles_envPiecesFrom {skip : Nat} {text name : List Char}
    (hne : name ≠ []) (hclosed : '}' ∉ name)
    (h : ∀ other ∈ placeholdersFrom skip text, other = name) :
    Piece.onlyInHoles envMark envMark name (envPiecesFrom skip text) = true := by
  induction skip, text using envPiecesFrom.induct with
  | case1 skip => simp [envPiecesFrom, Piece.onlyInHoles]
  | case2 skip c rest ih =>
      rw [placeholdersFrom] at h
      rw [envPiecesFrom]
      exact ih h
  | case3 c rest first hat ih =>
      simp only [placeholdersFrom, hat, List.forall_mem_cons] at h
      obtain ⟨rfl, hrest⟩ := h
      simp [envPiecesFrom, hat, Piece.onlyInHoles, ih hrest]
  | case4 c rest hat ih =>
      simp only [placeholdersFrom, hat] at h
      have hstart : ¬envMark name <+: c :: rest := by
        rintro ⟨after, hafter⟩
        rw [← hafter, placeholderAt_envMark hne hclosed] at hat
        simp at hat
      rw [← List.isPrefixOf_iff_prefix, Bool.not_eq_true] at hstart
      simp [envPiecesFrom, hat, Piece.onlyInHoles, write_envPiecesFrom, hstart,
        ih h]

theorem undisturbed_of_length_le_one (envVar : String → Option String)
    {text : String} (h : (placeholders text).length ≤ 1) :
    undisturbed envVar text = true := by
  rw [placeholders, List.length_map] at h
  unfold undisturbed
  cases hnames : placeholdersFrom 0 text.toList with
  | nil => rfl
  | cons name names =>
      rw [hnames, List.length_cons] at h
      have hsingle : names = [] := List.length_eq_zero_iff.mp (by omega)
      obtain ⟨hne, hclosed⟩ := mem_placeholdersFrom
        (hnames ▸ List.mem_cons_self : name ∈ placeholdersFrom 0 text.toList)
      have honly : Piece.onlyInHoles envMark envMark name
          (envPiecesFrom 0 text.toList) = true :=
        onlyInHoles_envPiecesFrom hne hclosed (by simp [hnames, hsingle])
      simp [undisturbedFrom, filledEnv_nil, envPieces, honly, hsingle]

/-! ## When the expansion is a substitution -/

theorem resolveEnvVars_substitutes (text : String) :
    (∀ envVar error, resolveEnvVars envVar text = .error error ↔
      ∃ name, (placeholders text).find? (fun name => (envVar name).isNone) =
        some name ∧ error = .missingEnvVar name) ∧
    (∀ envVar, undisturbed envVar text = true →
      resolveEnvVars envVar text = expandSimultaneously envVar text) ∧
    ((∀ envVar,
        resolveEnvVars envVar text = expandSimultaneously envVar text) ↔
      (placeholders text).length ≤ 1) := by
  refine ⟨fun envVar error => resolveEnvVars_error_iff envVar text error,
    fun envVar h => resolveEnvVars_of_undisturbed h, ?_, ?_⟩
  · intro hall
    by_contra hlong
    rw [placeholders, List.length_map] at hlong
    cases hnames : placeholdersFrom 0 text.toList with
    | nil => simp [hnames] at hlong
    | cons first rest =>
        cases rest with
        | nil => simp [hnames] at hlong
        | cons second names =>
            exact resolveEnvVars_rewritingEnv_ne hnames (hall _)
  · intro hshort envVar
    exact resolveEnvVars_of_undisturbed
      (undisturbed_of_length_le_one envVar hshort)

theorem resolveEnvVars_substitutes_two :
    undisturbed (fun _ => some "x$") "${A} ${B}" = true ∧
      resolveEnvVars (fun _ => some "x$") "${A} ${B}" =
        expandSimultaneously (fun _ => some "x$") "${A} ${B}" := by
  have h : undisturbed (fun _ => some "x$") "${A} ${B}" = true := by decide
  exact ⟨h, (resolveEnvVars_substitutes "${A} ${B}").2.1 _ h⟩

/-- The value of `A` is rewritten because it reads like the next
placeholder. -/
theorem resolveEnvVars_rewrites_value :
    resolveEnvVars (fun name => if name = "A" then some "${B}" else some "x")
        "${A} ${B}" = .ok "x x" ∧
      expandSimultaneously
        (fun name => if name = "A" then some "${B}" else some "x")
        "${A} ${B}" = .ok "${B} x" := by
  constructor
  · rfl
  · rfl

end ServiceRouter
