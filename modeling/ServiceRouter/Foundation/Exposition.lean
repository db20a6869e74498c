import ServiceRouter.Foundation.Text

/-!
# The text format of metrics

A page is a sequence of lines, each ended by a newline.  A line that begins with
`#` is a comment; any other line that is not empty is a sample: a metric name,
labels in braces and a count.  Label values stand in quotes, where a backslash,
a quote and a newline are escaped.  Pages that are written are read back.
-/

namespace ServiceRouter.Foundation

/-! ## Names -/

structure Name (first later : Char → Bool) where
  text : List Char
  valid : (text.head?.any first && text.all later) = true
  deriving DecidableEq

def isLabelStart (c : Char) : Bool := c.isAlpha || c == '_'

def isLabelChar (c : Char) : Bool := isLabelStart c || c.isDigit

def isMetricStart (c : Char) : Bool := isLabelStart c || c == ':'

def isMetricChar (c : Char) : Bool := isMetricStart c || c.isDigit

abbrev LabelName := Name isLabelStart isLabelChar

abbrev MetricName := Name isMetricStart isMetricChar

/-! ## Samples and lines -/

structure Sample where
  metric : MetricName
  labels : List (LabelName × List Char)
  count : Nat
  deriving DecidableEq

/-- What follows the `#` of a comment. -/
structure Comment where
  text : List Char
  oneLine : '\n' ∉ text

inductive Line where
  | comment (comment : Comment)
  | sample (sample : Sample)

def Line.sample? : Line → Option Sample
  | .comment _ => none
  | .sample s => some s

/-! ## Writing -/

def escapeLabel (c : Char) : List Char :=
  if c = '\\' then ['\\', '\\']
  else if c = '"' then ['\\', '"']
  else if c = '\n' then ['\\', 'n']
  else [c]

def showLabel (label : LabelName × List Char) : List Char :=
  label.1.text ++ '=' :: '"' :: (label.2.flatMap escapeLabel ++ ['"'])

def showLabels : List (LabelName × List Char) → List Char
  | [] => []
  | [label] => showLabel label
  | label :: labels => showLabel label ++ ',' :: showLabels labels

def showLabelSet (labels : List (LabelName × List Char)) : List Char :=
  if labels.isEmpty then [] else '{' :: (showLabels labels ++ ['}'])

def showSample (sample : Sample) : List Char :=
  sample.metric.text ++ (showLabelSet sample.labels ++
    ' ' :: (toString sample.count).toList)

def showLine : Line → List Char
  | .comment comment => '#' :: comment.text
  | .sample sample => showSample sample

def showPage (lines : List Line) : List Char :=
  lines.flatMap fun line => showLine line ++ ['\n']

/-! ## Reading -/

def readName (first later : Char → Bool) (text : List Char) :
    Option (Name first later × List Char) :=
  if h : ((text.takeWhile later).head?.any first &&
      (text.takeWhile later).all later) = true
  then some (⟨text.takeWhile later, h⟩, text.dropWhile later)
  else none

def unescapeLabel : Char → Option Char
  | '\\' => some '\\'
  | '"' => some '"'
  | 'n' => some '\n'
  | _ => none

/-- The label value up to its closing quote, and what follows it; the first
argument tells whether a backslash has just been read. -/
def readValue : Bool → List Char → Option (List Char × List Char)
  | _, [] => none
  | true, c :: rest =>
      match unescapeLabel c with
      | none => none
      | some d =>
          (readValue false rest).map fun read => (d :: read.1, read.2)
  | false, c :: rest =>
      if c = '"' then some ([], rest)
      else if c = '\\' then readValue true rest
      else (readValue false rest).map fun read => (c :: read.1, read.2)

def readLabel (text : List Char) :
    Option ((LabelName × List Char) × List Char) :=
  match readName isLabelStart isLabelChar text with
  | some (name, '=' :: '"' :: rest) =>
      (readValue false rest).map fun read => ((name, read.1), read.2)
  | _ => none

/-- Labels up to the closing brace, of which the last may have a comma too; no
more of them than the fuel. -/
def readLabels : Nat → List Char →
    Option (List (LabelName × List Char) × List Char)
  | 0, _ => none
  | fuel + 1, text =>
      match readLabel text with
      | some (label, '}' :: rest) => some ([label], rest)
      | some (label, ',' :: rest) =>
          (readLabels fuel rest).map fun read => (label :: read.1, read.2)
      | some _ => none
      | none =>
          match text with
          | '}' :: rest => some ([], rest)
          | _ => none

def readLabelSet : List Char →
    Option (List (LabelName × List Char) × List Char)
  | '{' :: rest => readLabels rest.length rest
  | rest => some ([], rest)

def isBlank (c : Char) : Bool := c == ' ' || c == '\t'

def readCount (text : List Char) : Option Nat :=
  if !text.isEmpty && text.all Char.isDigit then some (digitsValue text)
  else none

def readSample (text : List Char) : Option Sample :=
  (readName isMetricStart isMetricChar text).bind fun metric =>
    (readLabelSet metric.2).bind fun labels =>
      (readCount (labels.2.dropWhile isBlank)).map fun count =>
        { metric := metric.1, labels := labels.1, count := count }

/-- Comments and empty lines are skipped. -/
def readLines : List (List Char) → Option (List Sample)
  | [] => some []
  | line :: lines =>
      if line.isEmpty || line.head? = some '#' then readLines lines
      else
        (readSample line).bind fun sample =>
          (readLines lines).map fun samples => sample :: samples

/-- The lines of a text whose last line is ended too. -/
def endedLines (text : List Char) : Option (List (List Char)) :=
  let pieces := text.splitOn '\n'
  if pieces.getLast? = some [] then some pieces.dropLast else none

def readPage (text : List Char) : Option (List Sample) :=
  (endedLines text).bind readLines

/-! ## Names and values are read back -/

theorem name_all {first later : Char → Bool} (name : Name first later)
    {c : Char} (hc : c ∈ name.text) : later c = true := by
  have hvalid := name.valid
  simp only [Bool.and_eq_true, List.all_eq_true] at hvalid
  exact hvalid.2 c hc

theorem readName_append {first later : Char → Bool} (name : Name first later)
    {rest : List Char} (hrest : (rest.head?.any later) = false) :
    readName first later (name.text ++ rest) = some (name, rest) := by
  have hall : ∀ c ∈ name.text, later c = true := fun c hc => name_all name hc
  have htake : (name.text ++ rest).takeWhile later = name.text := by
    rw [List.takeWhile_append_of_pos hall]
    cases rest with
    | nil => simp
    | cons c rest => simp_all
  have hdrop : (name.text ++ rest).dropWhile later = rest := by
    rw [List.dropWhile_append_of_pos hall]
    cases rest with
    | nil => rfl
    | cons c rest => simp_all
  have hvalid := name.valid
  simp only [readName, htake, hdrop, hvalid, dif_pos]

theorem unescape_escapeLabel (c : Char) (rest : List Char) :
    readValue false (escapeLabel c ++ rest) =
      (readValue false rest).map fun read => (c :: read.1, read.2) := by
  unfold escapeLabel
  by_cases hslash : c = '\\'
  · simp [hslash, readValue, unescapeLabel]
  · by_cases hquote : c = '"'
    · simp [hquote, readValue, unescapeLabel]
    · by_cases hnewline : c = '\n'
      · simp [hnewline, readValue, unescapeLabel]
      · simp [hslash, hquote, hnewline, readValue]

theorem readValue_append (value rest : List Char) :
    readValue false (value.flatMap escapeLabel ++ '"' :: rest) =
      some (value, rest) := by
  induction value with
  | nil => rfl
  | cons c value ih =>
      rw [List.flatMap_cons, List.append_assoc, unescape_escapeLabel, ih]
      rfl

theorem readLabel_append (label : LabelName × List Char) (rest : List Char) :
    readLabel (showLabel label ++ rest) = some (label, rest) := by
  have hname : readName isLabelStart isLabelChar
      (showLabel label ++ rest) = some (label.1, '=' :: '"' ::
        (label.2.flatMap escapeLabel ++ '"' :: rest)) := by
    have happend (rest : List Char) : readName isLabelStart isLabelChar
        (label.1.text ++ '=' :: rest) = some (label.1, '=' :: rest) :=
      readName_append label.1 rfl
    simp [showLabel, happend]
  simp [readLabel, hname, readValue_append]

theorem readLabels_append {labels : List (LabelName × List Char)}
    (hsome : labels ≠ []) {fuel : Nat} (hfuel : labels.length ≤ fuel)
    (rest : List Char) :
    readLabels fuel (showLabels labels ++ '}' :: rest) =
      some (labels, rest) := by
  induction labels generalizing fuel with
  | nil => exact absurd rfl hsome
  | cons label labels ih =>
      obtain ⟨fuel, rfl⟩ := Nat.exists_eq_add_one_of_ne_zero
        (show fuel ≠ 0 by simp at hfuel; omega)
      cases labels with
      | nil => simp [showLabels, readLabels, readLabel_append]
      | cons second labels =>
          have hrest := ih (List.cons_ne_nil _ _)
            (Nat.le_of_succ_le_succ hfuel)
          simp only [showLabels, List.append_assoc, List.cons_append,
            readLabels, readLabel_append] at hrest ⊢
          rw [hrest]
          rfl

/-! ## Samples are read back -/

theorem length_le_length_showLabels (labels : List (LabelName × List Char)) :
    labels.length ≤ (showLabels labels).length := by
  have hlabel (label : LabelName × List Char) :
      1 ≤ (showLabel label).length := by
    simp [showLabel]
    omega
  induction labels with
  | nil => exact Nat.le_refl 0
  | cons label labels ih =>
      cases labels with
      | nil => exact hlabel label
      | cons second labels =>
          have hfirst := hlabel label
          rw [showLabels, List.length_append]
          · simp only [List.length_cons] at ih ⊢
            omega
          · exact List.cons_ne_nil _ _

theorem readLabelSet_append (labels : List (LabelName × List Char))
    {rest : List Char} (hrest : rest.head? ≠ some '{') :
    readLabelSet (showLabelSet labels ++ rest) = some (labels, rest) := by
  by_cases hsome : labels = []
  · subst hsome
    cases rest with
    | nil => rfl
    | cons c rest =>
        have hc : c ≠ '{' := fun h => hrest (congrArg some h)
        simp [showLabelSet, readLabelSet, hc]
  · have hfuel : labels.length ≤
        (showLabels labels ++ '}' :: rest).length := by
      rw [List.length_append]
      exact (length_le_length_showLabels labels).trans (Nat.le_add_right _ _)
    simpa [showLabelSet, hsome, readLabelSet] using
      readLabels_append hsome hfuel rest

theorem toString_nat_toList_ne_nil (n : Nat) : (toString n).toList ≠ [] := by
  rw [Nat.toString_eq_ofList_toDigits, String.toList_ofList]
  exact Nat.toDigits_ne_nil

theorem readCount_toString (n : Nat) :
    readCount (toString n).toList = some n := by
  have hdigits : (toString n).toList.all Char.isDigit = true :=
    List.all_eq_true.mpr fun c hc => isDigit_of_mem_toString hc
  have hempty : (toString n).toList.isEmpty = false :=
    List.isEmpty_eq_false_iff.mpr (toString_nat_toList_ne_nil n)
  rw [readCount, hempty, hdigits, digitsValue_toString]
  rfl

theorem dropWhile_isBlank_toString (n : Nat) :
    (' ' :: (toString n).toList).dropWhile isBlank = (toString n).toList := by
  obtain ⟨c, digits, hdigits⟩ :=
    List.exists_cons_of_ne_nil (toString_nat_toList_ne_nil n)
  have hdigit : c.isDigit = true :=
    isDigit_of_mem_toString (n := n) (hdigits ▸ List.mem_cons_self)
  have hblank : isBlank c = false := by
    by_contra hblank
    simp only [isBlank, Bool.not_eq_false, Bool.or_eq_true, beq_iff_eq]
      at hblank
    rcases hblank with rfl | rfl
    · exact absurd hdigit (by decide)
    · exact absurd hdigit (by decide)
  rw [hdigits, List.dropWhile_cons_of_pos (by decide),
    List.dropWhile_cons_of_neg (by simp [hblank])]

theorem readSample_showSample (sample : Sample) :
    readSample (showSample sample) = some sample := by
  obtain ⟨metric, labels, count⟩ := sample
  have hmetric : readName isMetricStart isMetricChar
      (showSample ⟨metric, labels, count⟩) = some (metric,
        showLabelSet labels ++ ' ' :: (toString count).toList) := by
    refine readName_append metric ?_
    cases labels <;> rfl
  have hlabels : readLabelSet
      (showLabelSet labels ++ ' ' :: (toString count).toList) =
        some (labels, ' ' :: (toString count).toList) :=
    readLabelSet_append labels (by simp)
  simp only [readSample, hmetric, hlabels, Option.bind_some,
    dropWhile_isBlank_toString, readCount_toString, Option.map_some]

/-! ## Pages are read back -/

theorem exists_cons_of_name {first later : Char → Bool}
    (name : Name first later) :
    ∃ c rest, name.text = c :: rest ∧ first c = true := by
  have hvalid := name.valid
  cases htext : name.text with
  | nil => simp [htext] at hvalid
  | cons c rest =>
      simp only [htext, List.head?_cons, Option.any_some, Bool.and_eq_true]
        at hvalid
      exact ⟨c, rest, rfl, hvalid.1⟩

theorem newline_not_mem_escapeLabel (c : Char) : '\n' ∉ escapeLabel c := by
  unfold escapeLabel
  split
  · decide
  · split
    · decide
    · split
      · decide
      · simpa [eq_comm] using ‹¬c = '\n'›

theorem newline_not_mem_showLabels (labels : List (LabelName × List Char)) :
    '\n' ∉ showLabels labels := by
  have hlabel (label : LabelName × List Char) : '\n' ∉ showLabel label := by
    have hname : '\n' ∉ label.1.text := fun hmem =>
      absurd (name_all label.1 hmem) (by decide)
    simp [showLabel, hname, newline_not_mem_escapeLabel]
  induction labels with
  | nil => exact List.not_mem_nil
  | cons label labels ih =>
      cases labels with
      | nil => exact hlabel label
      | cons second labels =>
          rw [showLabels]
          · simp [hlabel label, ih]
          · exact List.cons_ne_nil _ _

theorem newline_not_mem_showLine (line : Line) : '\n' ∉ showLine line := by
  cases line with
  | comment comment => simpa [showLine] using comment.oneLine
  | sample sample =>
      have hname : '\n' ∉ sample.metric.text := fun hmem =>
        absurd (name_all sample.metric hmem) (by decide)
      have hcount : '\n' ∉ (toString sample.count).toList := fun hmem =>
        absurd (isDigit_of_mem_toString hmem) (by decide)
      have hlabels : '\n' ∉ showLabelSet sample.labels := by
        unfold showLabelSet
        split
        · exact List.not_mem_nil
        · simp [newline_not_mem_showLabels]
      simp only [showLine, showSample, List.mem_append, List.mem_cons,
        hname, hlabels, hcount]
      decide

theorem endedLines_showPage (lines : List Line) :
    endedLines (showPage lines) = some (lines.map showLine) := by
  have hpieces : (showPage lines).splitOn '\n' =
      lines.map showLine ++ [[]] := by
    induction lines with
    | nil => rfl
    | cons line lines ih =>
        rw [showPage, List.flatMap_cons, List.append_assoc,
          List.singleton_append, List.splitOn_append_cons_self_of_not_mem
            (newline_not_mem_showLine line), ← showPage, ih]
        rfl
  simp [endedLines, hpieces]

theorem readLines_map_showLine (lines : List Line) :
    readLines (lines.map showLine) = some (lines.filterMap Line.sample?) := by
  induction lines with
  | nil => rfl
  | cons line lines ih =>
      rw [List.map_cons, readLines, ih]
      cases line with
      | comment comment =>
          simp [showLine, List.filterMap_cons, Line.sample?]
      | sample sample =>
          obtain ⟨c, rest, hname, hstart⟩ := exists_cons_of_name sample.metric
          have hhash : c ≠ '#' := by
            rintro rfl
            exact absurd hstart (by decide)
          have hline : showLine (.sample sample) =
              c :: (rest ++ (showLabelSet sample.labels ++
                ' ' :: (toString sample.count).toList)) := by
            rw [showLine, showSample, hname]
            rfl
          have hread : readSample (showLine (.sample sample)) = some sample :=
            readSample_showSample sample
          have hskip : ((showLine (.sample sample)).isEmpty ||
              (showLine (.sample sample)).head? = some '#') = false := by
            simp [hline, hhash]
          rw [hskip, hread]
          rfl

/-- A page is read back, whatever its comments and label values are. -/
theorem readPage_showPage (lines : List Line) :
    readPage (showPage lines) = some (lines.filterMap Line.sample?) := by
  rw [readPage, endedLines_showPage, Option.bind_some, readLines_map_showLine]

end ServiceRouter.Foundation
