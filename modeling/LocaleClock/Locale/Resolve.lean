import LocaleClock.FormatError
import LocaleClock.Locale.Basic
import LocaleClock.Locale.Identifier
import LocaleClock.Log.Record

/-! From identifiers to locales. An identifier that is a known name means that locale. Any other is
tried in normal form, then as its language alone, then as the language in its primary region, and
last as the language in the region of the same letters. -/

namespace LocaleClock.Locale

open Text Log

/-- The primary locale of the languages whose region does not have the letters of the language. -/
def primaryLocales : List (String × String) :=
  [("ar", "ar_SA"), ("ca", "ca_ES"), ("cs", "cs_CZ"), ("da", "da_DK"), ("el", "el_GR"),
   ("en", "en_US"), ("et", "et_EE"), ("eu", "eu_ES"), ("gl", "gl_ES"), ("he", "he_IL"),
   ("hi", "hi_IN"), ("ja", "ja_JP"), ("ko", "ko_KR"), ("nb", "nb_NO"), ("nn", "nn_NO"),
   ("no", "nb_NO"), ("sl", "sl_SI"), ("sr", "sr_RS"), ("sv", "sv_SE"), ("uk", "uk_UA"),
   ("vi", "vi_VN"), ("zh", "zh_CN")]

/-- The names that a normal form stands for, the most specific first. -/
def namesOfNormalForm (normal : List Char) : List String :=
  let language := languageOf normal
  [String.ofList normal, String.ofList language] ++
    (primaryLocales.lookup (String.ofList language)).toList ++
    [String.ofList (language ++ '_' :: asciiUpper language)]

/-- The names that an identifier stands for, the most specific first; a blank one stands for
none. -/
def candidates (identifier : String) : List String :=
  let trimmed := trim identifier.toList
  if trimmed.isEmpty then []
  else
    let normal := normalForm trimmed
    if normal.isEmpty then [String.ofList trimmed]
    else String.ofList trimmed :: namesOfNormalForm normal

/-- The locale that an identifier means: the first candidate that is known. -/
def find? (identifier : String) : Option Locale := (candidates identifier).findSome? ofName?

/-- The locale that an identifier means, or why there is none. -/
def resolve (identifier : String) : Except FormatError Locale :=
  match find? identifier with
  | some l => .ok l
  | none => .error (.unknownLocale identifier)

def isSupported (identifier : String) : Bool := (find? identifier).isSome

def fallbackRecord (e : FormatError) : Record where
  severity := .debug
  target := "datestamp::locale"
  message := "Unknown locale, using default: " ++ e.message

/-- The locale that an identifier means, and a default for an identifier that means none; the
default is recorded. -/
def resolveOr (identifier : String) (default : Locale) : Logged Locale :=
  match resolve identifier with
  | .ok l => .quiet l
  | .error e => (Logged.quiet default).note (fallbackRecord e)

end LocaleClock.Locale
