import HighperfServer.Library.TemplateRead
import HighperfServer.Proof.Pages

namespace HighperfServer
open Library

namespace Pages
open Template Routes

section Points

/-- The reader is in the text between the cells. -/
def between : Point := ⟨.text, ⟨[], false⟩⟩

/-- The reader is in the text of a cell. -/
def inside : Point := ⟨.text, ⟨[], true⟩⟩

/-- The reader is in an attribute value of a tag. -/
def within (tag : String) (cell : Bool) : Point := ⟨.value, ⟨tag.toList, cell⟩⟩

end Points

/-- The template leads the reader of the table cells. -/
abbrev Reads (scope : Context) (template : Template) (start stop : Point)
    (notes : List (Option Char)) : Prop :=
  Leads Json.values "td".toList scope template start stop notes

section Layout
variable {scope : Context}

end Layout

section Table
variable {scope : Context}

/-- The characters of a text inside a cell are noted. -/
def written (text : String) : List (Option Char) := text.toList.map some

end Table

end Pages

end HighperfServer
