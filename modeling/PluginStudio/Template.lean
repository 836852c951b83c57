/-
  Texts with placeholders.

  Key definitions include:
    * `PluginStudio.Template.placeholder?`
    * `PluginStudio.Template.fill`

  A placeholder is a name in braces.  Filling goes over the
  template once, so a value is never searched for further
  placeholders, and a brace that starts none stays.
-/

------------------------------------------------------------
-- Filling
------------------------------------------------------------

namespace PluginStudio

namespace Template

/- Values by the name of their placeholder. -/
abbrev Values :=
  List (String × String)

/-
  The value of a placeholder whose opening brace was read, and
  what follows its closing brace.
-/
def placeholder?
    (values : Values)
    (rest : List Char) : Option (String × List Char) :=
  let name := String.ofList (rest.takeWhile fun c => c ≠ '}')
  match rest.dropWhile fun c => c ≠ '}' with
  | [] => none
  | _ :: after =>
    match values.lookup name with
    | none => none
    | some value => some (value, after)

/- A placeholder leaves less of the template. -/
theorem placeholder?_length_lt
    {values : Values}
    {rest after : List Char}
    {value : String}
    (h : placeholder? values rest = some (value, after)) :
    after.length < rest.length := by
  have := (List.dropWhile_sublist (l := rest)
    (fun c : Char => decide (c ≠ '}'))).length_le
  unfold placeholder? at h
  grind

/- The characters of a template with its placeholders filled. -/
def fillChars
    (values : Values) :
    List Char → List Char
  | [] => []
  | c :: rest =>
    if c = '{' then
      match _h : placeholder? values rest with
      | some (value, after) => value.toList ++ fillChars values after
      | none => c :: fillChars values rest
    else
      c :: fillChars values rest
termination_by template => template.length
decreasing_by
  · have := placeholder?_length_lt _h
    simp only [List.length_cons]
    omega
  · simp
  · simp

/- A template with its placeholders filled. -/
def fill
    (values : Values)
    (template : String) : String :=
  String.ofList (fillChars values template.toList)

end Template

end PluginStudio
