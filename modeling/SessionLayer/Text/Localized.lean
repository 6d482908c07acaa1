import SessionLayer.Data.Table
import SessionLayer.Text.Template

/-!
# Texts in several languages

A localized text is a table from locales to templates. A reader gets the
template of its own locale, or else the one of a usual locale.
-/

namespace SessionLayer

/-- One text in several locales. -/
structure LocalizedText where
  templates : Table String String

namespace LocalizedText

/-- The text that exists in no locale. -/
def empty : LocalizedText := ⟨.empty⟩

instance : Inhabited LocalizedText := ⟨empty⟩

/-- Gives a locale its template, in place of any that it had. -/
def add (text : LocalizedText) (locale template : String) : LocalizedText :=
  ⟨text.templates.insert locale template⟩

/-- The text that exists in one locale only. -/
def single (locale template : String) : LocalizedText := empty.add locale template

/-- Whether the text exists in no locale. -/
def isEmpty (text : LocalizedText) : Bool := text.templates.entries.isEmpty

/-- The template of `locale`, or else the one of `usual`. -/
def resolve (text : LocalizedText) (locale : Option String) (usual : String) : Option String :=
  locale.bind text.templates.get? |>.or (text.templates.get? usual)

/-- The template for a reader, with arguments put in. -/
def format (text : LocalizedText) (locale : Option String) (usual : String) (args : List String) :
    Option String :=
  (text.resolve locale usual).map (Template.fill args)

/-- Whether two texts have the same template in every locale. -/
def same (s t : LocalizedText) : Bool :=
  s.templates.size = t.templates.size
    && s.templates.entries.all fun entry => t.templates.get? entry.1 = some entry.2

end LocalizedText

end SessionLayer
