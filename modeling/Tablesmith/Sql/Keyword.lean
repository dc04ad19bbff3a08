/-
# Keywords

A keyword is written in capitals here and matches a text in any mixture of cases. Besides the two
ASCII forms of a letter, the dotted and the dotless I, the long s and the Kelvin sign count as the
letters they fold to.
-/

import Tablesmith.Text.Blank
import Tablesmith.Text.Word

namespace Tablesmith
namespace Sql

/-- Does `c` stand for the capital letter `k` of a keyword? -/
def isLetter (k c : Char) : Bool :=
  c.toUpper == k
    || (k == 'I' && (c == '\u0130' || c == '\u0131'))
    || (k == 'S' && c == '\u017f')
    || (k == 'K' && c == '\u212a')

/-- What is left behind a keyword in front of the text. -/
def keyword? : (word t : Text) → Option Text
  | [], t => some t
  | _ :: _, [] => none
  | k :: ks, c :: cs => if isLetter k c then keyword? ks cs else none

/-- What is left behind several keywords with blanks between each two of them. -/
def keywords? : (words : List Text) → Text → Option Text
  | [], t => some t
  | [w], t => keyword? w t
  | w :: ws, t => do
    let t ← keyword? w t
    let t ← Text.afterBlanks? t
    keywords? ws t

/-- No word character follows, so that a keyword read up to here ends here. -/
def atWordEnd : Text → Bool
  | [] => true
  | c :: _ => !Text.isWord c

/-- What is left behind several keywords, the last of which is a whole word. -/
def wholeKeywords? (words : List Text) (t : Text) : Option Text :=
  (keywords? words t).filter atWordEnd

/-- A keyword takes as many characters as it has. -/
theorem length_of_keyword? {word t rest : Text} (h : keyword? word t = some rest) :
    t.length = word.length + rest.length := by
  induction word generalizing t with
  | nil => simp_all [keyword?]
  | cons k ks ih =>
    cases t with
    | nil => simp [keyword?] at h
    | cons c cs =>
      by_cases hc : isLetter k c
      · simp only [keyword?, hc, if_true] at h
        have := ih h
        simp only [List.length_cons]
        omega
      · simp [keyword?, hc] at h

example : keywords? ["CREATE", "TABLE"] "create \t Table x" = some " x".toList := by decide

example : wholeKeywords? ["UNIQUE"] "unique_code" = none := by decide

end Sql
end Tablesmith
