import Countinghouse.Text.Hex

/-!
Strings of JSON. `pieces` finds what stands between two quotes and `characters` makes characters of
it; `quote` writes the form with the fewest escapes.
-/
namespace Countinghouse.Json

/-- What a written string consists of: characters, and units of UTF-16 spelt in hexadecimal. -/
inductive Piece
  | char (c : Char)
  | unit (n : Nat)
deriving DecidableEq, Repr

/-- The character that a backslash before `c` stands for. -/
def unescape? (c : Char) : Option Char :=
  match c with
  | '"' => some '"'
  | '\\' => some '\\'
  | '/' => some '/'
  | 'b' => some '\x08'
  | 'f' => some '\x0c'
  | 'n' => some '\n'
  | 'r' => some '\r'
  | 't' => some '\t'
  | _ => none

/-- The pieces up to the closing quote, and what follows it. -/
def pieces : List Char → Option (List Piece × List Char)
  | [] => none
  | '"' :: rest => some ([], rest)
  | '\\' :: 'u' :: a :: b :: c :: d :: rest =>
    match Text.hexNumber? [a, b, c, d], pieces rest with
    | some n, some (ps, after) => some (.unit n :: ps, after)
    | _, _ => none
  | '\\' :: c :: rest =>
    match unescape? c, pieces rest with
    | some e, some (ps, after) => some (.char e :: ps, after)
    | _, _ => none
  | c :: rest =>
    if c.toNat < 0x20 ∨ c = '\\' then none else
      match pieces rest with
      | some (ps, after) => some (.char c :: ps, after)
      | none => none

def isLeading (n : Nat) : Bool := 0xD800 ≤ n && n < 0xDC00
def isTrailing (n : Nat) : Bool := 0xDC00 ≤ n && n < 0xE000

/-- Leading and trailing units count only in pairs. -/
def characters : List Piece → Option (List Char)
  | [] => some []
  | .char c :: ps => (characters ps).map (c :: ·)
  | .unit n :: .unit m :: ps =>
    if isLeading n then
      if isTrailing m then
        (characters ps).map (Char.ofNat (0x10000 + (n - 0xD800) * 0x400 + (m - 0xDC00)) :: ·)
      else none
    else if isTrailing n then none
    else (characters (.unit m :: ps)).map (Char.ofNat n :: ·)
  | .unit n :: ps =>
    if isLeading n || isTrailing n then none else (characters ps).map (Char.ofNat n :: ·)

/-- The string whose opening quote has been read, and what follows its closing quote. -/
def unquote (cs : List Char) : Option (List Char × List Char) :=
  match pieces cs with
  | some (ps, after) => (characters ps).map (·, after)
  | none => none

def escapeChar (c : Char) : List Char :=
  if c = '"' then ['\\', '"']
  else if c = '\\' then ['\\', '\\']
  else if c = '\x08' then ['\\', 'b']
  else if c = '\x0c' then ['\\', 'f']
  else if c = '\n' then ['\\', 'n']
  else if c = '\r' then ['\\', 'r']
  else if c = '\t' then ['\\', 't']
  else if c.toNat < 0x20 then '\\' :: 'u' :: Text.hexPadded 4 c.toNat
  else [c]

def escape (cs : List Char) : List Char := cs.flatMap escapeChar

def quote (cs : List Char) : List Char := '"' :: (escape cs ++ ['"'])

@[simp] theorem escape_cons (c : Char) (cs : List Char) :
    escape (c :: cs) = escapeChar c ++ escape cs := rfl

theorem length_pieces_lt {cs : List Char} {ps : List Piece} {after : List Char}
    (h : pieces cs = some (ps, after)) : after.length < cs.length := by
  fun_induction pieces cs generalizing ps after with
  | case1 => simp at h
  | case2 rest => simp_all
  | case3 a b c d rest n qs tail hn hs ih =>
    have := ih (by assumption)
    simp only [Option.some.injEq, Prod.mk.injEq] at h
    simp only [List.length_cons, ← h.2]
    omega
  | case4 => simp at h
  | case5 c rest _ e qs tail hn hs ih =>
    have := ih (by assumption)
    simp only [Option.some.injEq, Prod.mk.injEq] at h
    simp only [List.length_cons, ← h.2]
    omega
  | case6 => simp at h
  | case7 => simp at h
  | case8 c rest _ _ _ _ qs tail hs ih =>
    have := ih (by assumption)
    simp only [Option.some.injEq, Prod.mk.injEq] at h
    simp only [List.length_cons, ← h.2]
    omega
  | case9 => simp at h

theorem length_unquote_lt {cs s after : List Char} (h : unquote cs = some (s, after)) :
    after.length < cs.length := by
  unfold unquote at h
  split at h
  · rename_i ps tail hs
    obtain ⟨s', _, he⟩ := Option.map_eq_some_iff.1 h
    have := length_pieces_lt hs
    simp_all
  · simp at h

example : unquote ("a\\u00e9\\ud83d\\ude00\\/\"x".toList) = some (['a', 'é', '😀', '/'], ['x']) := by
  decide
example : unquote ("\\ud83d\"".toList) = none ∧ (pieces ("\\ud83d\"".toList)).isSome := by decide
example : quote ['"', '\x01', 'ß'] = "\"\\\"\\u0001ß\"".toList := by decide

end Countinghouse.Json
