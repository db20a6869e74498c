import ServiceRouter.Main.CommandLine

/-!
# When parsing the command line returns

Every loop over the words advances its index or leaves its variables as they
are, so parsing returns exactly if the index advances in every iteration.  The
loops that end in an increment always do.  The loop of `route-explain` does so
unless a word that takes a value is reached at the end of the line.
-/

namespace ServiceRouter

open Foundation

/-- In every iteration of the subcommand's loop the index increases. -/
def IndexAdvances (tables : CaseMapping) (args : List String) : Prop :=
  match args with
  | [] => True
  | name :: _ =>
      match subcommand tables name with
      | .words _ => True
      | .loop loop =>
          ∀ s, (loop.whileLoop args).Reaches loop.entry s →
            s.index < args.length → s.index < (loop.body args s).index

def routeExplainTakesValue (word : String) : Bool :=
  word = "--config" || word = "--request-file" || word = "--header"

/-- A line of `route-explain` that ends in an odd number of words that take a
value. -/
def EndsInOption (args : List String) : Prop :=
  args.head? = some "route-explain" ∧
    Odd (args.tail.rtakeWhile routeExplainTakesValue).length

/-! ## One iteration -/

theorem scanWord_advances {α : Type} (action : String → WordAction α)
    (args : List String) (s : Scan α) :
    s.index < (scanWord action args s).index := by
  unfold scanWord
  cases action (args.getD s.index "") with
  | word change => simp
  | value store =>
      cases args[s.index + 1]? with
      | some value => simp
      | none => simp

theorem routeExplainBody_advances_or_stays (args : List String)
    (s : Scan RouteExplainLocals) :
    s.index < (routeExplainBody args s).index ∨ routeExplainBody args s = s := by
  unfold routeExplainBody
  cases routeExplainWord (args.getD s.index "") with
  | word change => simp
  | value store =>
      cases args[s.index + 1]? with
      | some value => simp
      | none => simp

theorem subcommand_eq_loop {tables : CaseMapping} {name : String}
    {loop : WordLoop} (h : subcommand tables name = .loop loop) :
    (∀ args s, s.index < (loop.body args s).index) ∨
      name = "route-explain" ∧ loop = routeExplainLoop := by
  unfold subcommand at h
  split at h <;> cases h
  all_goals first
    | exact .inr ⟨rfl, rfl⟩
    | exact .inl fun args s => scanWord_advances _ args s

/-! ## Returning and advancing -/

theorem WordLoop.exists_parse_iff (loop : WordLoop) (args : List String) :
    (∃ fuel parsed, loop.parse fuel args = some parsed) ↔
      (loop.whileLoop args).Returns loop.entry := by
  constructor
  · intro h
    obtain ⟨fuel, parsed, hparse⟩ := h
    obtain ⟨s, hrun, -⟩ := Option.map_eq_some_iff.mp hparse
    exact ⟨fuel, s, hrun⟩
  · intro h
    obtain ⟨fuel, s, hrun⟩ := h
    exact ⟨fuel, loop.finish s.locals, by rw [WordLoop.parse, hrun]; rfl⟩

theorem WordLoop.returns_iff_advances (loop : WordLoop) (args : List String)
    (hbody : ∀ s, s.index < (loop.body args s).index ∨
      loop.body args s = s) :
    (loop.whileLoop args).Returns loop.entry ↔
      ∀ s, (loop.whileLoop args).Reaches loop.entry s →
        s.index < args.length → s.index < (loop.body args s).index := by
  -- The words that are left are fewer exactly if the index is greater.
  have hleft : ∀ s, s.index < args.length →
      (args.length - (loop.body args s).index < args.length - s.index ↔
        s.index < (loop.body args s).index) := by
    intro s hs
    omega
  have hlowers : ∀ s, (loop.whileLoop args).test s = true →
      args.length - (loop.body args s).index < args.length - s.index ∨
        loop.body args s = s := by
    intro s htest
    rw [hleft s (of_decide_eq_true htest)]
    apply hbody s
  rw [WhileLoop.returns_iff_lowers (fun s => args.length - s.index) hlowers]
  constructor
  · intro h s hreaches hs
    apply (hleft s hs).mp (h s hreaches (decide_eq_true hs))
  · intro h s hreaches htest
    have hs := of_decide_eq_true htest
    apply (hleft s hs).mpr (h s hreaches hs)

theorem subcommand_advances_or_stays {tables : CaseMapping} {name : String}
    {loop : WordLoop} (h : subcommand tables name = .loop loop)
    (args : List String) (s : Scan loop.Locals) :
    s.index < (loop.body args s).index ∨ loop.body args s = s := by
  cases subcommand_eq_loop h with
  | inl hadvances => exact .inl (hadvances args s)
  | inr hroute =>
      obtain ⟨-, rfl⟩ := hroute
      apply routeExplainBody_advances_or_stays

theorem parse_returns_iff_advances (tables : CaseMapping)
    (args : List String) :
    (∃ fuel parsed, parseCommand tables fuel args = some parsed) ↔
      IndexAdvances tables args := by
  cases args with
  | nil => simp [parseCommand, IndexAdvances]
  | cons name words =>
      cases hname : subcommand tables name with
      | words parse => simp [parseCommand, IndexAdvances, hname]
      | loop loop =>
          simp only [parseCommand, IndexAdvances, hname]
          rw [loop.exists_parse_iff]
          apply loop.returns_iff_advances
          apply subcommand_advances_or_stays hname

/-! ## The loop of route-explain -/

theorem routeExplainWord_cases (word : String) :
    (∃ change, routeExplainWord word = .word change ∧
      routeExplainTakesValue word = false) ∨
    (∃ store, routeExplainWord word = .value store ∧
      routeExplainTakesValue word = true) := by
  unfold routeExplainTakesValue routeExplainWord
  split_ifs <;> simp_all

/-- What an iteration reads of the words that are left. -/
theorem routeExplainBody_cases (args : List String)
    (s : Scan RouteExplainLocals) (hs : s.index < args.length) :
    (∃ word, args.drop s.index = word :: args.drop (s.index + 1) ∧
      routeExplainTakesValue word = false ∧
      (routeExplainBody args s).index = s.index + 1) ∨
    (∃ word value,
      args.drop s.index = word :: value :: args.drop (s.index + 2) ∧
      routeExplainTakesValue word = true ∧
      (routeExplainBody args s).index = s.index + 2) ∨
    (∃ word, args.drop s.index = [word] ∧
      routeExplainTakesValue word = true ∧ routeExplainBody args s = s) := by
  have hdrop := List.drop_eq_getElem_cons hs
  have hword : args.getD s.index "" = args[s.index] := by
    simp [hs]
  rcases routeExplainWord_cases args[s.index] with
    ⟨change, haction, htakes⟩ | ⟨store, haction, htakes⟩
  · left
    refine ⟨args[s.index], hdrop, htakes, ?_⟩
    rw [routeExplainBody, hword, haction]
  · right
    by_cases hnext : s.index + 1 < args.length
    · left
      refine ⟨args[s.index], args[s.index + 1], ?_, htakes, ?_⟩
      · rw [hdrop, List.drop_eq_getElem_cons hnext]
      · rw [routeExplainBody, hword, haction, List.getElem?_eq_getElem hnext]
    · right
      have hlast : args.length ≤ s.index + 1 := by omega
      refine ⟨args[s.index], ?_, htakes, ?_⟩
      · rw [hdrop, List.drop_eq_nil_of_le hlast]
      · rw [routeExplainBody, hword, haction, List.getElem?_eq_none hlast]

/-- Whether the words that are left lack a value does not change. -/
theorem routeExplainBody_lacksValue (args : List String)
    (s : Scan RouteExplainLocals) (hs : s.index < args.length) :
    lacksValue routeExplainTakesValue
        (args.drop (routeExplainBody args s).index) =
      lacksValue routeExplainTakesValue (args.drop s.index) := by
  rcases routeExplainBody_cases args s hs with
    ⟨word, hdrop, htakes, hindex⟩ | ⟨word, value, hdrop, htakes, hindex⟩ |
      ⟨word, -, -, hstays⟩
  · rw [hdrop, hindex, lacksValue_cons_of_false _ htakes]
  · rw [hdrop, hindex, lacksValue_cons_cons _ htakes]
  · rw [hstays]

theorem routeExplainBody_advances (args : List String)
    (s : Scan RouteExplainLocals) (hs : s.index < args.length)
    (hleft : lacksValue routeExplainTakesValue (args.drop s.index) = false) :
    s.index < (routeExplainBody args s).index := by
  rcases routeExplainBody_cases args s hs with
    ⟨word, -, -, hindex⟩ | ⟨word, value, -, -, hindex⟩ |
      ⟨word, hdrop, htakes, -⟩
  · omega
  · omega
  · rw [hdrop, lacksValue, htakes] at hleft
    contradiction

theorem lacksValue_of_reaches {args : List String}
    {s : Scan RouteExplainLocals}
    (h : (routeExplainLoop.whileLoop args).Reaches routeExplainLoop.entry s) :
    lacksValue routeExplainTakesValue (args.drop s.index) =
      lacksValue routeExplainTakesValue args.tail := by
  apply h.keeps (p := fun s =>
    lacksValue routeExplainTakesValue (args.drop s.index) =
      lacksValue routeExplainTakesValue args.tail)
  · intro t htest ht
    rw [← ht]
    apply routeExplainBody_lacksValue args t (of_decide_eq_true htest)
  · rw [← List.drop_one]
    rfl

theorem routeExplain_returns_iff (args : List String) :
    (routeExplainLoop.whileLoop args).Returns routeExplainLoop.entry ↔
      ¬ Odd (args.tail.rtakeWhile routeExplainTakesValue).length := by
  rw [← lacksValue_iff, Bool.not_eq_true]
  constructor
  · intro h
    obtain ⟨fuel, s, hrun⟩ := h
    -- Where the loop ends no word is left, so none lacks its value.
    obtain ⟨hreaches, htest⟩ := WhileLoop.reaches_of_run hrun
    have hend : args.length ≤ s.index :=
      not_lt.mp (of_decide_eq_false htest)
    rw [← lacksValue_of_reaches hreaches, List.drop_eq_nil_of_le hend]
    rfl
  · intro h
    rw [routeExplainLoop.returns_iff_advances args
      (routeExplainBody_advances_or_stays args)]
    intro s hreaches hs
    apply routeExplainBody_advances args s hs
    rw [lacksValue_of_reaches hreaches, h]

/-! ## Parsing -/

private theorem parse_returns_iff_not_endsInOption (tables : CaseMapping)
    (args : List String) :
    (∃ fuel parsed, parseCommand tables fuel args = some parsed) ↔
      ¬ EndsInOption args := by
  cases args with
  | nil => simp [parseCommand, EndsInOption]
  | cons name words =>
      cases hname : subcommand tables name with
      | words parse =>
          have hother : name ≠ "route-explain" := by
            rintro rfl
            simp [subcommand] at hname
          simp [parseCommand, EndsInOption, hname, hother]
      | loop loop =>
          simp only [parseCommand, hname]
          rw [loop.exists_parse_iff]
          by_cases hroute : name = "route-explain"
          · subst hroute
            cases hname
            rw [routeExplain_returns_iff]
            simp [EndsInOption]
          · have hends : ¬ EndsInOption (name :: words) := by
              intro hends
              apply hroute (Option.some.inj hends.1)
            rcases subcommand_eq_loop hname with hadvances | ⟨heq, -⟩
            · have hreturns := loop.returns_iff_advances (name :: words)
                (subcommand_advances_or_stays hname _)
              rw [hreturns]
              apply iff_of_true _ hends
              intro s _ _
              apply hadvances
            · exact absurd heq hroute

theorem parse_command_returns_iff (tables : CaseMapping)
    (args : List String) :
    ((∃ fuel parsed, parseCommand tables fuel args = some parsed) ↔
      ¬ EndsInOption args) ∧
    (IndexAdvances tables args ↔ ¬ EndsInOption args) := by
  constructor
  · apply parse_returns_iff_not_endsInOption
  · rw [← parse_returns_iff_advances]
    apply parse_returns_iff_not_endsInOption

theorem route_explain_hangs :
    (¬ ∃ fuel parsed,
      parseCommand .ascii fuel ["route-explain", "--config"] = some parsed) ∧
    ¬ IndexAdvances .ascii ["route-explain", "--config"] := by
  have hends : EndsInOption ["route-explain", "--config"] := by
    simp [EndsInOption, List.rtakeWhile, routeExplainTakesValue]
  have hhangs : ¬ ∃ fuel parsed, parseCommand .ascii fuel
      ["route-explain", "--config"] = some parsed := by
    rw [parse_returns_iff_not_endsInOption]
    exact not_not_intro hends
  constructor
  · exact hhangs
  · rwa [← parse_returns_iff_advances]

end ServiceRouter
