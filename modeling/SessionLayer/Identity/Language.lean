/-!
# Languages

A client announces its language as a flag. Messages to the client are written
in the locale that belongs to the language.
-/

namespace SessionLayer

/-- The language a client plays in. -/
inductive Language
  | english
  | spanishAmericas
  | portugueseBrazil
  | portuguese
  | korean
  | russian
  | dutch
  | filipino
  | french
  | german
  | italian
  | japanese
  | spanish
  | chineseSimplified
  | chineseTraditional
  | irish
  /-- A flag without a name. -/
  | other (flag : UInt32)
  deriving DecidableEq

namespace Language

instance : Inhabited Language := ⟨.english⟩

/-- Every language with a name. -/
def known : List Language :=
  [.english, .spanishAmericas, .portugueseBrazil, .portuguese, .korean, .russian, .dutch,
   .filipino, .french, .german, .italian, .japanese, .spanish, .chineseSimplified,
   .chineseTraditional, .irish]

/-- The language of a flag. -/
def ofFlag (flag : UInt32) : Language :=
  match flag with
  | 256 => .english
  | 2 => .spanishAmericas
  | 2048 => .portugueseBrazil
  | 16 => .portuguese
  | 4 => .korean
  | 8 => .russian
  | 4096 => .dutch
  | 64 => .filipino
  | 8192 => .french
  | 16384 => .german
  | 32768 => .italian
  | 512 => .japanese
  | 1024 => .spanish
  | 65536 => .chineseSimplified
  | 131072 => .chineseTraditional
  | 262144 => .irish
  | _ => .other flag

/-- The flag of a language. -/
def flag : Language → UInt32
  | .english => 256
  | .spanishAmericas => 2
  | .portugueseBrazil => 2048
  | .portuguese => 16
  | .korean => 4
  | .russian => 8
  | .dutch => 4096
  | .filipino => 64
  | .french => 8192
  | .german => 16384
  | .italian => 32768
  | .japanese => 512
  | .spanish => 1024
  | .chineseSimplified => 65536
  | .chineseTraditional => 131072
  | .irish => 262144
  | .other flag => flag

/-- The name of a language, the same for all without one of their own. -/
def name : Language → String
  | .english => "English"
  | .spanishAmericas => "SpanishAmericas"
  | .portugueseBrazil => "PortugueseBrazil"
  | .portuguese => "Portuguese"
  | .korean => "Korean"
  | .russian => "Russian"
  | .dutch => "Dutch"
  | .filipino => "Filipino"
  | .french => "French"
  | .german => "German"
  | .italian => "Italian"
  | .japanese => "Japanese"
  | .spanish => "Spanish"
  | .chineseSimplified => "ChineseSimplified"
  | .chineseTraditional => "ChineseTraditional"
  | .irish => "Irish"
  | .other _ => "Other"

/-- The name, and the number behind it where there is no name. -/
def text : Language → String
  | .other flag => "Other(" ++ toString flag.toNat ++ ")"
  | named => named.name

/-- The language of this name. -/
def ofName? (name : String) : Option Language := known.find? fun candidate => candidate.name == name

/-- The locale whose templates a client of this language reads. Both forms of
Chinese share one, and an unknown language has none. -/
def locale? : Language → Option String
  | .english => some "en"
  | .spanishAmericas => some "es_US"
  | .portugueseBrazil => some "pt_BR"
  | .portuguese => some "pt"
  | .korean => some "ko"
  | .russian => some "ru"
  | .dutch => some "nl"
  | .filipino => some "fil"
  | .french => some "fr"
  | .german => some "de"
  | .italian => some "it"
  | .japanese => some "ja"
  | .spanish => some "es_ES"
  | .chineseSimplified => some "zh"
  | .chineseTraditional => some "zh"
  | .irish => some "ga"
  | .other _ => none

/-- A language is canonical when reading its flag gives it back: a number with a
name is not carried without that name. -/
def Canonical (value : Language) : Prop := ofFlag value.flag = value

instance (value : Language) : Decidable value.Canonical := inferInstanceAs (Decidable (_ = _))

@[simp] theorem flag_ofFlag (flag : UInt32) : (ofFlag flag).flag = flag := by
  unfold ofFlag
  split <;> rfl

theorem canonical_ofFlag (flag : UInt32) : (ofFlag flag).Canonical := by
  simp [Canonical]

end Language

end SessionLayer
