import HighperfServer.Construction.Pages
import HighperfServer.Library.TemplateCheck
import HighperfServer.Library.Text

namespace HighperfServer
open Library

namespace Json

mutual

/-- A value is printed as in a page, and an object is not shown. -/
def shown : Json → Str
  | .bool true => "true".toList
  | .bool false => "false".toList
  | .number value => decimal value
  | .string value => value
  | .array values => '[' :: shownAll values ++ [']']
  | .object _ => "[object]".toList

/-- The elements of an array are separated by commas. -/
def shownAll : List Json → Str
  | [] => []
  | [value] => shown value
  | value :: rest => shown value ++ ", ".toList ++ shownAll rest

end

/-- Zero, the empty text, the empty array and the empty object count as false. -/
def truthy : Json → Bool
  | .bool value => value
  | .number value => value ≠ 0
  | .string value => !value.isEmpty
  | .array values => !values.isEmpty
  | .object fields => !fields.isEmpty

/-- Only objects have fields. -/
def field : Json → Str → Option Json
  | .object fields, name => fields.lookup name
  | _, _ => none

def elements : Json → Option (List Json)
  | .array values => some values
  | _ => none

def text : Json → Option Str
  | .string value => some value
  | _ => none

/-- What a template sees of JSON values.  Fields are those of objects, and elements those of arrays. -/
def values : Values Json := ⟨truthy, field, elements, text, shown⟩

end Json

/-- What the pages rely on in the Tera crate: a rule for each construct of their templates, and that
the engine prints the templates of the repository under their names. -/
structure TeraRules (print : Template → Context → Except Str Str) (engine : TemplateEngine) : Prop where
  constructs : Template.Follows Json.values print
  pages : ∀ entry ∈ Pages.templates, ∀ context, engine.tera entry.1 context = print entry.2 context

namespace Pages

/-- The printing that the rules describe, with one report for everything else. -/
def referencePrint : Template → Context → Except Str Str :=
  Template.printed Json.values fun _ => "Failed to render".toList

/-- An engine that does what the rules say. -/
def reference : TemplateEngine where
  tera name context :=
    match templates.lookup name with
    | some template => referencePrint template context
    | none => .error ("Template '".toList ++ name ++ "' not found".toList)

/-- Every template is found under its name. -/
theorem lookup_templates {entry : Str × Template} (listed : entry ∈ templates) :
    templates.lookup entry.1 = some entry.2 := by
  simp only [templates, List.mem_cons, List.not_mem_nil, or_false] at listed
  rcases listed with rfl | rfl | rfl | rfl | rfl <;> simp [templates, List.lookup_cons]

/-- The rules can be followed. -/
theorem reference_rules : TeraRules referencePrint reference where
  constructs := Template.follows_printed Json.values _
  pages := by
    intro entry listed context
    unfold reference
    dsimp only
    rw [lookup_templates listed]

end Pages

end HighperfServer
