import Countinghouse.Json.Value

/-!
The texts that spell a value. Between tokens there may be any blanks, and a character may be spelt
as itself, by a short escape or by its units of UTF-16; a number has one spelling but for its
exponent.
-/
namespace Countinghouse.Json

def IsGap (cs : List Char) : Prop := ∀ c ∈ cs, c ∈ [' ', '\t', '\n', '\r']

def AreDigits (ds : List Char) : Prop := ds ≠ [] ∧ ∀ d ∈ ds, d.isDigit = true

/-- What may stand between the mark of an exponent and its digits. -/
inductive SpellsSign : Bool → List Char → Prop
  | absent : SpellsSign false []
  | plus : SpellsSign false ['+']
  | minus : SpellsSign true ['-']

inductive SpellsExponent : Option Int → List Char → Prop
  | absent : SpellsExponent none []
  | present {mark : Char} {negative : Bool} {sign ds : List Char} (letter : mark = 'e' ∨ mark = 'E')
      (signed : SpellsSign negative sign) (digits : AreDigits ds) :
      SpellsExponent
        (some (if negative then -(Decimal.value ds : Int) else Decimal.value ds))
        (mark :: (sign ++ ds))

/-- The whole part begins with zero only when it is zero. -/
inductive SpellsNumber : Number → List Char → Prop
  | parts {negative : Bool} {whole fraction tail : List Char} {exponent : Option Int}
      (digits : AreDigits whole) (front : whole = ['0'] ∨ whole.head? ≠ some '0')
      (behindPoint : ∀ d ∈ fraction, d.isDigit = true) (power : SpellsExponent exponent tail) :
      SpellsNumber ⟨negative, whole, fraction, exponent⟩
        ((if negative then ['-'] else []) ++
          (whole ++ ((if fraction.isEmpty then [] else '.' :: fraction) ++ tail)))

/-- A unit of UTF-16 in four hexadecimal digits, each letter in either case. -/
inductive SpellsUnit (n : Nat) : List Char → Prop
  | hex {ds : List Char} (small : n < 0x10000) (digits : ds.map Char.toLower = Text.hexPadded 4 n) :
      SpellsUnit n ('\\' :: 'u' :: ds)

/-- What stands behind a backslash, and the character that it stands for. -/
def shortEscapes : List (Char × Char) :=
  [('"', '"'), ('\\', '\\'), ('/', '/'), ('b', '\x08'), ('f', '\x0c'), ('n', '\n'), ('r', '\r'),
    ('t', '\t')]

inductive SpellsChar (c : Char) : List Char → Prop
  | plain (visible : 0x20 ≤ c.toNat) (noQuote : c ≠ '"') (noBackslash : c ≠ '\\') : SpellsChar c [c]
  | short {e : Char} (listed : (e, c) ∈ shortEscapes) : SpellsChar c ['\\', e]
  | unit {cs : List Char} (unit : SpellsUnit c.toNat cs) : SpellsChar c cs
  | pair {high low : List Char} (beyond : 0x10000 ≤ c.toNat)
      (leading : SpellsUnit (0xD800 + (c.toNat - 0x10000) / 0x400) high)
      (trailing : SpellsUnit (0xDC00 + (c.toNat - 0x10000) % 0x400) low) :
      SpellsChar c (high ++ low)

inductive SpellsChars : List Char → List Char → Prop
  | nil : SpellsChars [] []
  | cons {c : Char} {s front rest : List Char} (first : SpellsChar c front)
      (later : SpellsChars s rest) : SpellsChars (c :: s) (front ++ rest)

inductive SpellsText (s : String) : List Char → Prop
  | quoted {cs : List Char} (inner : SpellsChars s.toList cs) : SpellsText s ('"' :: (cs ++ ['"']))

mutual

inductive Spells : Value → List Char → Prop
  | null : Spells .null ['n', 'u', 'l', 'l']
  | yes : Spells (.bool true) ['t', 'r', 'u', 'e']
  | no : Spells (.bool false) ['f', 'a', 'l', 's', 'e']
  | number {n : Number} {cs : List Char} (number : SpellsNumber n cs) : Spells (.number n) cs
  | text {s : String} {cs : List Char} (text : SpellsText s cs) : Spells (.text s) cs
  | noItems {gap : List Char} (blank : IsGap gap) : Spells (.array []) ('[' :: (gap ++ [']']))
  | items {gap cs rest : List Char} {v : Value} {vs : List Value} (blank : IsGap gap)
      (first : Spells v cs) (later : SpellsItems vs rest) :
      Spells (.array (v :: vs)) ('[' :: (gap ++ (cs ++ rest)))
  | noMembers {gap : List Char} (blank : IsGap gap) :
      Spells (.object []) ('\x7b' :: (gap ++ ['\x7d']))
  | members {gap cs rest : List Char} {key : String} {v : Value} {ms : List (String × Value)}
      (blank : IsGap gap) (first : SpellsMember key v cs) (later : SpellsMembers ms rest) :
      Spells (.object ((key, v) :: ms)) ('\x7b' :: (gap ++ (cs ++ rest)))

/-- The items after the first, and the closing bracket. -/
inductive SpellsItems : List Value → List Char → Prop
  | close {gap : List Char} (blank : IsGap gap) : SpellsItems [] (gap ++ [']'])
  | next {gap gap' cs rest : List Char} {v : Value} {vs : List Value} (blank : IsGap gap)
      (blank' : IsGap gap') (item : Spells v cs) (later : SpellsItems vs rest) :
      SpellsItems (v :: vs) (gap ++ ',' :: (gap' ++ (cs ++ rest)))

/-- A key, its colon and its value. -/
inductive SpellsMember : String → Value → List Char → Prop
  | member {key : String} {v : Value} {name gap gap' cs : List Char} (named : SpellsText key name)
      (blank : IsGap gap) (blank' : IsGap gap') (item : Spells v cs) :
      SpellsMember key v (name ++ (gap ++ ':' :: (gap' ++ cs)))

/-- The members after the first, and the closing brace. -/
inductive SpellsMembers : List (String × Value) → List Char → Prop
  | close {gap : List Char} (blank : IsGap gap) : SpellsMembers [] (gap ++ ['\x7d'])
  | next {gap gap' cs rest : List Char} {key : String} {v : Value} {ms : List (String × Value)}
      (blank : IsGap gap) (blank' : IsGap gap') (member : SpellsMember key v cs)
      (later : SpellsMembers ms rest) :
      SpellsMembers ((key, v) :: ms) (gap ++ ',' :: (gap' ++ (cs ++ rest)))

end

/-- A text that spells a value, with nothing but blanks around it. -/
inductive Value.SpelledBy (v : Value) (text : String) : Prop
  | within {front cs back : List Char} (blank : IsGap front) (value : Spells v cs)
      (blank' : IsGap back) (whole : text.toList = front ++ (cs ++ back))

end Countinghouse.Json
