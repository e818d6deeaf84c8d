import Scriptlet.Binary64.Nearest
import Scriptlet.Binary64.Value
import Scriptlet.Options
import Scriptlet.Source.Position
import Scriptlet.Token.Basic

/-!
# The written forms of tokens

The grammar of a script's text, stated without saying how the text is read: which texts stand for
which token, and what may follow them.

Results:
1. `literalBody_escape`, `lexeme_text_string`: every string has a written form, the one that
   escapes as little as it can.
2. `lexeme_ne_nil`: no token is written as nothing.
-/

namespace Scriptlet

/-- The text between the quotes of a string literal and the value it stands for. A backslash
stands for nothing and takes any meaning from the scalar behind it. -/
inductive LiteralBody : List Char → List Char → Prop
  | nil : LiteralBody [] []
  | plain {c : Char} {body value : List Char} : c ≠ '"' → c ≠ '\\' → LiteralBody body value →
      LiteralBody (c :: body) (c :: value)
  | escaped {c : Char} {body value : List Char} : LiteralBody body value →
      LiteralBody ('\\' :: c :: body) (c :: value)

/-- The texts that stand for a token. Two words are reserved; any other one is an identifier. -/
inductive Lexeme : List Char → Token → Prop
  | letWord : Lexeme ['l', 'e', 't'] .letWord
  | printWord : Lexeme ['p', 'r', 'i', 'n', 't'] .printWord
  | assign : Lexeme ['='] .assign
  | plus : Lexeme ['+'] .plus
  | identifier {first : Char} {others : List Char} : isAlphabetic first = true →
      (∀ c ∈ others, isAlphanumeric c = true) → first :: others ≠ ['l', 'e', 't'] →
      first :: others ≠ ['p', 'r', 'i', 'n', 't'] →
      Lexeme (first :: others) (.identifier (String.ofList (first :: others)))
  | number {digits : List Char} {value : Binary64} : digits ≠ [] →
      (∀ c ∈ digits, c.isDigit = true) → value.StandsFor (decimalValue digits) →
      Lexeme digits (.number value)
  | string {body value : List Char} : LiteralBody body value →
      Lexeme ('"' :: body ++ ['"']) (.string (String.ofList value))

namespace Token

/-- The tokens whose text is made of letters and numbers. -/
def IsWord : Token → Prop
  | .letWord | .printWord | .identifier _ => True
  | _ => False

/-- What may stand behind a token's text: nothing that would make a word or a number longer and,
where a number has to end the input, nothing at all behind a number. -/
def EndsBefore (numbers : NumberRule) : Token → List Char → Prop
  | .number _, rest =>
    (∀ c, rest.head? = some c → c.isDigit = false) ∧ (numbers = .toEndOfInput → rest = [])
  | .letWord, rest | .printWord, rest | .identifier _, rest =>
    ∀ c, rest.head? = some c → isAlphanumeric c = false
  | _, _ => True

end Token

def Blank (gap : List Char) : Prop := ∀ c ∈ gap, isBlank c = true

/-! ## Written forms exist and are not empty -/

theorem literalBody_escape (value : List Char) :
    LiteralBody (value.flatMap Token.escape) value := by
  induction value with
  | nil => exact .nil
  | cons c rest ih =>
    rw [List.flatMap_cons, Token.escape]
    split
    · exact .escaped ih
    · rename_i hc
      rw [not_or] at hc
      exact .plain hc.1 hc.2 ih

theorem lexeme_literal (value : List Char) :
    Lexeme (Token.literal value) (.string (String.ofList value)) :=
  .string (literalBody_escape value)

theorem lexeme_text_string (value : String) :
    Lexeme (Token.string value).text.toList (.string value) := by
  have hliteral := lexeme_literal value.toList
  rw [String.ofList_toList] at hliteral
  rw [Token.text, String.toList_ofList]
  exact hliteral

theorem lexeme_ne_nil {text : List Char} {t : Token} (h : Lexeme text t) : text ≠ [] := by
  cases h with
  | number hne _ _ => exact hne
  | letWord | printWord | assign | plus | identifier | string => simp

end Scriptlet
