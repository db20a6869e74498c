import ServiceRouter.Error
import ServiceRouter.Foundation.Text

/-!
# Environment variables in the configuration text

Placeholders are the matches of `\$\{([^}]+)\}` in the text as it was read.
Each is replaced in the text as it has become so far.
-/

namespace ServiceRouter

open Foundation

/-- The variable name of a placeholder that starts here.  The name extends to
the first closing brace. -/
def placeholderAt : List Char → Option (List Char)
  | '$' :: '{' :: rest =>
      let name := rest.takeWhile (· ≠ '}')
      if name.isEmpty || name.length = rest.length then none else some name
  | _ => none

/-- The names of the placeholders from left to right; `skip` characters still
belong to a placeholder already found. -/
def placeholdersFrom : Nat → List Char → List (List Char)
  | _, [] => []
  | skip + 1, _ :: rest => placeholdersFrom skip rest
  | 0, c :: rest =>
      match placeholderAt (c :: rest) with
      | some name => name :: placeholdersFrom (name.length + 2) rest
      | none => placeholdersFrom 0 rest

def placeholders (value : String) : List String :=
  (placeholdersFrom 0 value.toList).map String.ofList

def placeholderText (name : String) : String :=
  String.ofList ('$' :: '{' :: name.toList ++ ['}'])

def resolveEnvVars (envVar : String → Option String) (value : String) :
    Except ConfigError String :=
  (placeholders value).foldlM (fun result varName =>
    match envVar varName with
    | none => .error (.missingEnvVar varName)
    | some varValue =>
        .ok (replace result (placeholderText varName) varValue)) value

def resolveEnvVarsInYaml (envVar : String → Option String) (yaml : String) :
    Except ConfigError String :=
  resolveEnvVars envVar yaml

theorem resolveEnvVars_of_no_placeholder {envVar : String → Option String}
    {value : String} (h : placeholders value = []) :
    resolveEnvVars envVar value = .ok value := by
  rw [resolveEnvVars, h]
  rfl

theorem placeholders_of_no_dollar {value : String}
    (h : '$' ∉ value.toList) : placeholders value = [] := by
  have hfrom (text : List Char) (h : '$' ∉ text) :
      placeholdersFrom 0 text = [] := by
    induction text with
    | nil => rfl
    | cons c text ih =>
        rw [List.mem_cons, not_or] at h
        have hnone : placeholderAt (c :: text) = none := by
          unfold placeholderAt
          split
          · next heq => exact absurd (List.cons.inj heq).1.symm h.1
          · rfl
        rw [placeholdersFrom, hnone]
        exact ih h.2
  rw [placeholders, hfrom _ h, List.map_nil]

theorem no_dollar_append {first second : String} (h : '$' ∉ first.toList)
    (h' : '$' ∉ second.toList) : '$' ∉ (first ++ second).toList := by
  rw [String.toList_append, List.mem_append]
  exact not_or.mpr ⟨h, h'⟩

example : placeholders "a: ${USER}, b: ${}, c: ${PASS}" = ["USER", "PASS"] := by
  decide

end ServiceRouter
