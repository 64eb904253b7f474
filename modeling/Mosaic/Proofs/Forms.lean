import Mosaic.Json.Document

/-!
# Well-formed texts

A form is a text as its author wrote it: which blanks stand where, which characters are escaped and
how, what a number looks like, in which order the members of an object come. Every form is
well-formed, so a form is scanned as a document without faults of its structure. What is left is to
read it, and there a number may still be out of range or a surrogate alone.

## Main definitions

* `Stroke`, `Figure` — how the parts of strings and the numbers are written
* `Form`, `Form.chars` — a text as it was written, and its characters
* `spaced` — a text with blanks around it
* `Form.node` — the part of a document that it is

## Main results

* `scanString_strokes`, `scanNumber_figure` — strings and numbers are scanned whole
* `scanNode_form` — so are all forms
* `ofText_form` — the document that a form is, blanks around it or not
* `skip_node` — whoever does not want it passes over it
-/

set_option autoImplicit false

namespace Mosaic.Json

/-! ## Blanks -/

/-- Blanks between the parts of a text. -/
abbrev Gap := { cs : List Char // ∀ c ∈ cs, isGap c = true }

/-- No blanks. -/
def Gap.none : Gap := ⟨[], nofun⟩

theorem skipGaps_gap (gap : Gap) (rest : List Char) : skipGaps (gap.val ++ rest) = skipGaps rest :=
  List.dropWhile_append_of_pos gap.property

theorem skipGaps_cons {c : Char} (solid : isGap c = false) (rest : List Char) :
    skipGaps (c :: rest) = c :: rest :=
  List.dropWhile_cons_of_neg (by simp [solid])

/-! ## Strings -/

/-- The letters after a backslash, and what they stand for. -/
def escapes : List (Char × Char) :=
  [('"', '"'), ('\\', '\\'), ('/', '/'), ('b', '\x08'), ('f', '\x0c'), ('n', '\n'), ('r', '\r'),
    ('t', '\t')]

/-- A part of a string as it is written: a character, a letter after a backslash, or four digits
in base sixteen. -/
inductive Stroke where
  | plain (c : Char) (fits : c ≠ '"' ∧ c ≠ '\\' ∧ 0x20 ≤ c.toNat)
  | escape (letter meant : Char) (known : (letter, meant) ∈ escapes)
  | digits (a b c d : Char) (n : Nat) (value : Text.hexValue? [a, b, c, d] = some n)

namespace Stroke

/-- The characters of a part of a string. -/
def chars : Stroke → List Char
  | plain c _ => [c]
  | escape letter _ _ => ['\\', letter]
  | digits a b c d _ _ => ['\\', 'u', a, b, c, d]

/-- What a part of a string is, before surrogates are joined. -/
def piece : Stroke → Piece
  | plain c _ => .char c
  | escape _ meant _ => .char meant
  | digits _ _ _ _ n _ => .unit n

end Stroke

/-- The characters of a string after its opening quote. -/
def strokeChars (strokes : List Stroke) : List Char := strokes.flatMap Stroke.chars ++ ['"']

theorem unescape?_of_mem_escapes {letter meant : Char} (known : (letter, meant) ∈ escapes) :
    unescape? letter = some meant ∧ letter ≠ 'u' := by
  simp only [escapes, List.mem_cons, Prod.mk.injEq, List.not_mem_nil, or_false] at known
  rcases known with ⟨rfl, rfl⟩ | ⟨rfl, rfl⟩ | ⟨rfl, rfl⟩ | ⟨rfl, rfl⟩ | ⟨rfl, rfl⟩ | ⟨rfl, rfl⟩ |
    ⟨rfl, rfl⟩ | ⟨rfl, rfl⟩ <;> decide

theorem pieces_stroke (stroke : Stroke) (rest : List Char) :
    pieces (stroke.chars ++ rest) = (stroke.piece :: (pieces rest).1, (pieces rest).2) := by
  cases stroke with
  | plain c fits =>
    obtain ⟨quote, slash, control⟩ := fits
    show pieces (c :: rest) = _
    rw [pieces.eq_def]
    simp only [if_neg quote, if_neg slash, if_neg (Nat.not_lt.mpr control)]
    rfl
  | escape letter meant known =>
    obtain ⟨means, other⟩ := unescape?_of_mem_escapes known
    show pieces ('\\' :: letter :: rest) = _
    rw [pieces.eq_def]
    simp only [Char.reduceEq, if_false, if_true, if_neg other, means]
    rfl
  | digits a b c d n value =>
    show pieces ('\\' :: 'u' :: a :: b :: c :: d :: rest) = _
    rw [pieces.eq_def]
    simp only [Char.reduceEq, if_false, if_true, unit?, value]
    rfl

theorem pieces_strokes (strokes : List Stroke) (rest : List Char) :
    pieces (strokeChars strokes ++ rest) = (strokes.map Stroke.piece, .closed rest) := by
  induction strokes with
  | nil =>
    show pieces ('"' :: rest) = _
    rw [pieces.eq_def]
    rfl
  | cons stroke strokes ih =>
    have split : strokeChars (stroke :: strokes) ++ rest =
        stroke.chars ++ (strokeChars strokes ++ rest) := by
      simp [strokeChars]
    rw [split, pieces_stroke, ih]
    rfl

/-- The text of a string, if its surrogates come in pairs. -/
def strokesText (strokes : List Stroke) : Except Malformed String :=
  (join (.closed []) (strokes.map Stroke.piece)).map String.ofList

/-- What follows a string is no matter for its text. -/
theorem join_closed (rest : List Char) (parts : List Piece) :
    join (.closed rest) parts = join (.closed []) parts := by
  fun_induction join (.closed []) parts with
  | case1 => rfl
  | case2 fault inUnit impossible => cases impossible
  | _ =>
    rw [join.eq_def]
    simp_all

/-- A string is scanned up to its closing quote. -/
theorem scanString_strokes (strokes : List Stroke) (rest : List Char) :
    scanString (strokeChars strokes ++ rest) = ⟨strokesText strokes, .ok rest⟩ := by
  rw [scanString, pieces_strokes]
  simp only [join_closed rest, strokesText]

/-! ## Numbers -/

/-- One digit or more. -/
abbrev Digits := { ds : List Char // ds ≠ [] ∧ ∀ d ∈ ds, d.isDigit = true }

/-- The exponent of a number as it is written. -/
structure ExponentFigure where
  capital : Bool
  /-- Whether there is a sign, and whether it is a minus. -/
  sign : Option Bool
  digits : Digits

/-- A number as it is written: a zero in front of other digits is not allowed. -/
structure Figure where
  negative : Bool
  whole : Digits
  lean : whole.val.head? = some '0' → whole.val.length = 1
  fraction : Option Digits
  exponent : Option ExponentFigure

/-- The characters of a sign, if there is one. -/
def signChars : Option Bool → List Char
  | none => []
  | some minus => [if minus then '-' else '+']

namespace ExponentFigure

/-- The characters of an exponent. -/
def chars (e : ExponentFigure) : List Char :=
  (if e.capital then 'E' else 'e') :: signChars e.sign ++ e.digits.val

/-- The parts of an exponent. -/
def parts (e : ExponentFigure) : Bool × List Char := (e.sign.getD false, e.digits.val)

end ExponentFigure

namespace Figure

/-- The characters after the whole part of a number. -/
def tailChars (n : Figure) : List Char :=
  (n.fraction.map fun ds => '.' :: ds.val).getD [] ++ (n.exponent.map ExponentFigure.chars).getD []

/-- The characters of a number. -/
def chars (n : Figure) : List Char :=
  (if n.negative then ['-'] else []) ++ n.whole.val ++ n.tailChars

/-- The parts of a number. -/
def numeral (n : Figure) : Numeral where
  negative := n.negative
  whole := n.whole.val
  fraction := (n.fraction.map Subtype.val).getD []
  exponent := n.exponent.map ExponentFigure.parts

end Figure

/-- A text does not go on with what could belong to a number. -/
def Breaks (rest : List Char) : Prop :=
  ∀ c, rest.head? = some c → c.isDigit = false ∧ c ≠ '.' ∧ c ≠ 'e' ∧ c ≠ 'E'

theorem Breaks.nil : Breaks [] := nofun

theorem Breaks.cons {c : Char} {rest : List Char}
    (h : c.isDigit = false ∧ c ≠ '.' ∧ c ≠ 'e' ∧ c ≠ 'E') : Breaks (c :: rest) := by
  rintro _ ⟨⟩
  exact h

/-- All digits are taken. -/
theorem digits1_append (ds : Digits) {rest : List Char}
    (stop : ∀ c, rest.head? = some c → c.isDigit = false) :
    digits1 (ds.val ++ rest) = .ok (ds.val, rest) := by
  obtain ⟨ds, some_digit, all⟩ := ds
  have taken : (ds ++ rest).takeWhile Char.isDigit = ds := by
    rw [List.takeWhile_append_of_pos all]
    cases rest with
    | nil => simp
    | cons c rest => simp [stop c rfl]
  have left : (ds ++ rest).dropWhile Char.isDigit = rest := by
    rw [List.dropWhile_append_of_pos all]
    cases rest with
    | nil => rfl
    | cons c rest => simp [stop c rfl]
  cases ds with
  | nil => exact (some_digit rfl).elim
  | cons d ds =>
    have digit : d.isDigit = true := all d List.mem_cons_self
    show digits1 (d :: (ds ++ rest)) = _
    rw [digits1, if_pos digit]
    exact congrArg Except.ok (Prod.ext taken left)

theorem ne_sign_of_isDigit {d : Char} (digit : d.isDigit = true) : d ≠ '+' ∧ d ≠ '-' := by
  constructor <;>
  · rintro rfl
    revert digit
    decide

theorem scanExponent_figure (e : ExponentFigure) {rest : List Char} (breaks : Breaks rest) :
    scanExponent (e.chars ++ rest) = .ok (some e.parts, rest) := by
  obtain ⟨capital, sign, ds, some_digit, all⟩ := e
  have taken : digits1 (ds ++ rest) = .ok (ds, rest) :=
    digits1_append ⟨ds, some_digit, all⟩ fun c here => (breaks c here).1
  cases sign with
  | some minus =>
    cases capital <;> cases minus <;>
      simp [ExponentFigure.chars, ExponentFigure.parts, signChars, scanExponent, taken, Except.map]
  | none =>
    cases ds with
    | nil => exact (some_digit rfl).elim
    | cons d ds =>
      obtain ⟨plus, minus⟩ := ne_sign_of_isDigit (all d List.mem_cons_self)
      rw [List.cons_append] at taken
      cases capital <;>
        simp [ExponentFigure.chars, ExponentFigure.parts, signChars, scanExponent, plus, minus,
          taken, Except.map]

theorem scanExponent_exponent (exponent : Option ExponentFigure) {rest : List Char}
    (breaks : Breaks rest) :
    scanExponent ((exponent.map ExponentFigure.chars).getD [] ++ rest) =
      .ok (exponent.map ExponentFigure.parts, rest) := by
  cases exponent with
  | some e => exact scanExponent_figure e breaks
  | none =>
    cases rest with
    | nil => rfl
    | cons c rest =>
      obtain ⟨-, -, small, capital⟩ := breaks c rfl
      simp [scanExponent, small, capital]

/-- The exponent of a number breaks off the digits before it. -/
theorem no_digit_after (exponent : Option ExponentFigure) {rest : List Char}
    (breaks : Breaks rest) :
    ∀ c, ((exponent.map ExponentFigure.chars).getD [] ++ rest).head? = some c →
      c.isDigit = false ∧ c ≠ '.' := by
  intro c here
  cases exponent with
  | some e =>
    obtain rfl : (if e.capital then 'E' else 'e') = c := by simpa [ExponentFigure.chars] using here
    cases e.capital <;> decide
  | none => exact ⟨(breaks c here).1, (breaks c here).2.1⟩

theorem scanFraction_figure (n : Figure) {rest : List Char} (breaks : Breaks rest) :
    scanFraction (n.tailChars ++ rest) =
      .ok (n.numeral.fraction, (n.exponent.map ExponentFigure.chars).getD [] ++ rest) := by
  obtain ⟨negative, whole, lean, fraction, exponent⟩ := n
  have stop := no_digit_after exponent breaks
  cases fraction with
  | some ds =>
    have taken := digits1_append ds fun c here => (stop c here).1
    simp only [Figure.tailChars, Figure.numeral, Option.map_some, Option.getD_some,
      List.append_assoc, List.cons_append, scanFraction, taken]
  | none =>
    show scanFraction ((exponent.map ExponentFigure.chars).getD [] ++ rest) = .ok ([], _)
    generalize (exponent.map ExponentFigure.chars).getD [] ++ rest = cs at stop
    cases cs with
    | nil => rfl
    | cons c cs => simp [scanFraction, (stop c rfl).2]

/-- Whatever follows the whole part of a number, it is no digit. -/
theorem no_digit_after_whole (n : Figure) {rest : List Char} (breaks : Breaks rest) :
    ∀ c, (n.tailChars ++ rest).head? = some c → c.isDigit = false := by
  intro c here
  obtain ⟨negative, whole, lean, fraction, exponent⟩ := n
  cases fraction with
  | some ds =>
    cases here
    decide
  | none => exact (no_digit_after exponent breaks c here).1

theorem scanNumeral_figure (n : Figure) {rest : List Char} (breaks : Breaks rest) :
    scanNumeral (n.chars ++ rest) = .ok (n.numeral, rest) := by
  have whole : digits1 (n.whole.val ++ (n.tailChars ++ rest)) =
      .ok (n.whole.val, n.tailChars ++ rest) :=
    digits1_append n.whole (no_digit_after_whole n breaks)
  have fraction := scanFraction_figure n breaks
  have exponent := scanExponent_exponent n.exponent breaks
  have lean : ¬ (n.whole.val.head? = some '0' ∧ n.whole.val.length ≠ 1) :=
    fun ⟨zero, long⟩ => long (n.lean zero)
  -- The sign comes off first; the digits show that there is no other.
  cases sign : n.negative with
  | true =>
    have chars : n.chars ++ rest = '-' :: (n.whole.val ++ (n.tailChars ++ rest)) := by
      simp [Figure.chars, sign]
    rw [chars, scanNumeral.eq_def]
    simp [whole, fraction, exponent, lean, bind, Except.bind, pure, Except.pure, Figure.numeral,
      sign]
  | false =>
    have chars : n.chars ++ rest = n.whole.val ++ (n.tailChars ++ rest) := by
      simp [Figure.chars, sign]
    obtain ⟨d, ds, first⟩ := List.exists_cons_of_ne_nil n.whole.property.1
    have minus : d ≠ '-' :=
      (ne_sign_of_isDigit (n.whole.property.2 d (first ▸ List.mem_cons_self))).2
    rw [first, List.cons_append] at chars whole
    rw [chars, scanNumeral.eq_def]
    simp [whole, minus, fraction, exponent, ← first, lean, bind, Except.bind, pure, Except.pure,
      Figure.numeral, sign]

/-- A number is scanned up to what cannot belong to it. -/
theorem scanNumber_figure (n : Figure) {rest : List Char} (breaks : Breaks rest) :
    scanNumber (n.chars ++ rest) = ⟨n.numeral.value, .ok rest⟩ := by
  rw [scanNumber, scanNumeral_figure n breaks]

/-! ## Forms -/

/-- An element of an array: its form, the blanks after it, and those after the comma, if there is
one. -/
structure Item (F : Type) where
  form : F
  after : Gap
  next : Gap

/-- A member of an object: its key and its form, with the blanks on both sides of the colon and
those after the form and after the comma. -/
structure Member (F : Type) where
  key : List Stroke
  before : Gap
  between : Gap
  form : F
  after : Gap
  next : Gap

/-- A well-formed text, but for the blanks around it. -/
inductive Form where
  | null
  | bool (b : Bool)
  | number (n : Figure)
  | string (strokes : List Stroke)
  | array (blank : Gap) (items : List (Item Form))
  | object (blank : Gap) (members : List (Member Form))

mutual

/-- The characters of a form. -/
def Form.chars : Form → List Char
  | .null => ['n', 'u', 'l', 'l']
  | .bool true => ['t', 'r', 'u', 'e']
  | .bool false => ['f', 'a', 'l', 's', 'e']
  | .number n => n.chars
  | .string strokes => '"' :: strokeChars strokes
  | .array blank items => '[' :: (blank.val ++ itemsChars items)
  | .object blank members => '\x7b' :: (blank.val ++ membersChars members)

/-- The elements of an array from one on, up to the bracket. -/
def itemsChars : List (Item Form) → List Char
  | [] => [']']
  | [⟨form, after, _⟩] => form.chars ++ (after.val ++ [']'])
  | ⟨form, after, next⟩ :: rest => form.chars ++ (after.val ++ ',' :: (next.val ++ itemsChars rest))

/-- The members of an object from one on, up to the bracket. -/
def membersChars : List (Member Form) → List Char
  | [] => ['\x7d']
  | [⟨key, before, between, form, after, _⟩] =>
    '"' :: (strokeChars key ++ (before.val ++ ':' :: (between.val ++ (form.chars ++
      (after.val ++ ['\x7d'])))))
  | ⟨key, before, between, form, after, next⟩ :: rest =>
    '"' :: (strokeChars key ++ (before.val ++ ':' :: (between.val ++ (form.chars ++
      (after.val ++ ',' :: (next.val ++ membersChars rest))))))

end

/-- A number as a part of a document. -/
def Figure.node (n : Figure) : Node :=
  match n.numeral.value with
  | .ok value => .number value
  | .error fault => .misspelt fault none

/-- A string as a part of a document. -/
def stringNode (strokes : List Stroke) : Node :=
  match strokesText strokes with
  | .ok text => .string text
  | .error fault => .broken fault none

mutual

/-- A form inside so many brackets as a part of a document. -/
def Form.node (depth : Nat) : Form → Node
  | .null => .null
  | .bool b => .bool b
  | .number n => n.node
  | .string strokes => stringNode strokes
  | .array _ items => .array (depthLimit ≤ depth) (itemNodes (depth + 1) items) .closed
  | .object _ members => .object (depthLimit ≤ depth) (memberNodes (depth + 1) members) .closed

/-- The elements of an array as parts of a document. -/
def itemNodes (depth : Nat) : List (Item Form) → List Node
  | [] => []
  | ⟨form, _, _⟩ :: rest => form.node depth :: itemNodes depth rest

/-- The members of an object as parts of a document. -/
def memberNodes (depth : Nat) : List (Member Form) → List (Except Malformed String × Node)
  | [] => []
  | ⟨key, _, _, form, _, _⟩ :: rest => (strokesText key, form.node depth) :: memberNodes depth rest

end

/-! ## Scanning forms -/

/-- What numbers begin with begins nothing else. -/
theorem numeric_head {c : Char} (h : c = '-' ∨ c.isDigit = true) :
    isGap c = false ∧ c ≠ '"' ∧ c ≠ ']' := by
  have apart (d : Char) (other : d ≠ '-' ∧ d.isDigit = false) : c ≠ d := by
    rintro rfl
    rcases h with same | digit
    · exact other.1 same
    · simp [other.2] at digit
  refine ⟨?_, apart '"' (by decide), apart ']' (by decide)⟩
  simp [isGap, apart ' ' (by decide), apart '\n' (by decide), apart '\t' (by decide),
    apart '\r' (by decide)]

theorem Figure.exists_chars_eq_cons (n : Figure) :
    ∃ c cs, n.chars = c :: cs ∧ (c = '-' ∨ c.isDigit = true) := by
  obtain ⟨d, ds, first⟩ := List.exists_cons_of_ne_nil n.whole.property.1
  have digit : d.isDigit = true := n.whole.property.2 d (first ▸ List.mem_cons_self)
  cases sign : n.negative with
  | true => exact ⟨'-', n.whole.val ++ n.tailChars, by simp [chars, sign], .inl rfl⟩
  | false => exact ⟨d, ds ++ n.tailChars, by simp [chars, sign, first], .inr digit⟩

/-- A form begins with a character that is neither a blank nor a closing bracket. -/
theorem Form.exists_chars_eq_cons (f : Form) :
    ∃ c cs, f.chars = c :: cs ∧ isGap c = false ∧ c ≠ ']' := by
  cases f with
  | null => exact ⟨_, _, rfl, by decide, by decide⟩
  | bool b => cases b <;> exact ⟨_, _, rfl, by decide, by decide⟩
  | string strokes => exact ⟨_, _, rfl, by decide, by decide⟩
  | array blank items => exact ⟨_, _, rfl, by decide, by decide⟩
  | object blank members => exact ⟨_, _, rfl, by decide, by decide⟩
  | number n =>
    obtain ⟨c, cs, first, numeric⟩ := n.exists_chars_eq_cons
    obtain ⟨solid, -, bracket⟩ := numeric_head numeric
    exact ⟨c, cs, first, solid, bracket⟩

/-- Blanks and punctuation break off a number. -/
theorem Breaks.gap (gap : Gap) {c : Char} (rest : List Char)
    (h : c.isDigit = false ∧ c ≠ '.' ∧ c ≠ 'e' ∧ c ≠ 'E') : Breaks (gap.val ++ c :: rest) := by
  obtain ⟨cs, blank⟩ := gap
  cases cs with
  | nil => exact .cons h
  | cons b cs =>
    have gap : isGap b = true := blank b List.mem_cons_self
    simp only [isGap, Bool.or_eq_true, decide_eq_true_eq] at gap
    exact .cons (by rcases gap with ((rfl | rfl) | rfl) | rfl <;> decide)

variable {fuel depth : Nat} {rest : List Char}

theorem scanWord_append (letters : List Char) (whole : Node) (rest : List Char) :
    scanWord letters whole (letters ++ rest) = (whole, some rest) := by
  induction letters with
  | nil => rfl
  | cons l letters ih =>
    show scanWord (l :: letters) whole (l :: (letters ++ rest)) = _
    rw [scanWord, if_pos rfl, ih]

theorem scanNode_string (strokes : List Stroke) :
    scanNode (fuel + 1) depth ('"' :: (strokeChars strokes ++ rest)) =
      (stringNode strokes, some rest) := by
  rw [scanNode.eq_def]
  simp only [if_true, scanString_strokes, Scanned.node, stringNode]
  cases strokesText strokes <;> rfl

theorem scanNode_number (n : Figure) (breaks : Breaks rest) :
    scanNode (fuel + 1) depth (n.chars ++ rest) = (n.node, some rest) := by
  obtain ⟨c, cs, first, numeric⟩ := n.exists_chars_eq_cons
  have scanned := scanNumber_figure n breaks
  rw [first, List.cons_append] at scanned ⊢
  rw [scanNode.eq_def]
  simp only [if_neg (numeric_head numeric).2.1, if_pos numeric, scanned, Scanned.node, Figure.node]
  cases n.numeral.value <;> rfl

theorem scanNode_array_nil (blank : Gap) :
    scanNode (fuel + 1) depth ('[' :: (blank.val ++ ']' :: rest)) =
      (.array (depthLimit ≤ depth) [] .closed, some rest) := by
  rw [scanNode.eq_def]
  simp [skipGaps_gap, skipGaps_cons (show isGap ']' = false by decide)]

theorem scanNode_array {blank : Gap} {c : Char} {cs : List Char} {items : List Node}
    (solid : isGap c = false) (filled : c ≠ ']')
    (scanned : scanItems fuel (depth + 1) (c :: cs) = (items, .closed, some rest)) :
    scanNode (fuel + 1) depth ('[' :: (blank.val ++ c :: cs)) =
      (.array (depthLimit ≤ depth) items .closed, some rest) := by
  rw [scanNode.eq_def]
  simp [skipGaps_gap, skipGaps_cons solid, filled, scanned]

theorem scanNode_object_nil (blank : Gap) :
    scanNode (fuel + 1) depth ('\x7b' :: (blank.val ++ '\x7d' :: rest)) =
      (.object (depthLimit ≤ depth) [] .closed, some rest) := by
  rw [scanNode.eq_def]
  simp [skipGaps_gap, skipGaps_cons (show isGap '\x7d' = false by decide)]

theorem scanNode_object (blank : Gap) {cs : List Char}
    {members : List (Except Malformed String × Node)}
    (scanned : scanMembers fuel (depth + 1) cs = (members, .closed, some rest)) :
    scanNode (fuel + 1) depth ('\x7b' :: (blank.val ++ '"' :: cs)) =
      (.object (depthLimit ≤ depth) members .closed, some rest) := by
  rw [scanNode.eq_def]
  simp [skipGaps_gap, skipGaps_cons (show isGap '"' = false by decide), scanned]

theorem scanItems_last {cs : List Char} {item : Node} {after : Gap}
    (scanned : scanNode fuel depth cs = (item, some (after.val ++ ']' :: rest))) :
    scanItems (fuel + 1) depth cs = ([item], .closed, some rest) := by
  rw [scanItems.eq_def]
  simp [scanned, skipGaps_gap, skipGaps_cons (show isGap ']' = false by decide)]

theorem scanItems_cons {c : Char} {cs more : List Char} {item : Node} {items : List Node}
    {after next : Gap} (solid : isGap c = false) (filled : c ≠ ']')
    (scanned : scanNode fuel depth cs = (item, some (after.val ++ ',' :: (next.val ++ c :: more))))
    (onward : scanItems fuel depth (c :: more) = (items, .closed, some rest)) :
    scanItems (fuel + 1) depth cs = (item :: items, .closed, some rest) := by
  rw [scanItems.eq_def]
  simp [scanned, skipGaps_gap, skipGaps_cons (show isGap ',' = false by decide),
    skipGaps_cons solid, filled, onward]

theorem scanMembers_last {key : List Stroke} {before between after : Gap} {c : Char}
    {cs : List Char} {node : Node} (solid : isGap c = false)
    (scanned : scanNode fuel depth (c :: cs) = (node, some (after.val ++ '\x7d' :: rest))) :
    scanMembers (fuel + 1) depth
        (strokeChars key ++ (before.val ++ ':' :: (between.val ++ c :: cs))) =
      ([(strokesText key, node)], .closed, some rest) := by
  rw [scanMembers.eq_def]
  simp [scanString_strokes, scanned, skipGaps_gap, skipGaps_cons solid,
    skipGaps_cons (show isGap ':' = false by decide),
    skipGaps_cons (show isGap '\x7d' = false by decide)]

theorem scanMembers_cons {key : List Stroke} {before between after next : Gap} {c : Char}
    {cs more : List Char} {node : Node} {members : List (Except Malformed String × Node)}
    (solid : isGap c = false)
    (scanned : scanNode fuel depth (c :: cs) =
      (node, some (after.val ++ ',' :: (next.val ++ '"' :: more))))
    (onward : scanMembers fuel depth more = (members, .closed, some rest)) :
    scanMembers (fuel + 1) depth
        (strokeChars key ++ (before.val ++ ':' :: (between.val ++ c :: cs))) =
      ((strokesText key, node) :: members, .closed, some rest) := by
  rw [scanMembers.eq_def]
  simp [scanString_strokes, scanned, skipGaps_gap, skipGaps_cons solid, onward,
    skipGaps_cons (show isGap ':' = false by decide),
    skipGaps_cons (show isGap ',' = false by decide),
    skipGaps_cons (show isGap '"' = false by decide)]

theorem itemsChars_cons_cons (item item' : Item Form) (items : List (Item Form)) :
    itemsChars (item :: item' :: items) =
      item.form.chars ++
        (item.after.val ++ ',' :: (item.next.val ++ itemsChars (item' :: items))) := by
  rw [itemsChars.eq_def]

theorem membersChars_cons_cons (m m' : Member Form) (ms : List (Member Form)) :
    membersChars (m :: m' :: ms) =
      '"' :: (strokeChars m.key ++ (m.before.val ++ ':' :: (m.between.val ++ (m.form.chars ++
        (m.after.val ++ ',' :: (m.next.val ++ membersChars (m' :: ms))))))) := by
  rw [membersChars.eq_def]

/-- What follows an opening bracket, or a comma, in an array begins with the next element. -/
theorem itemsChars_eq_cons (item : Item Form) (items : List (Item Form)) :
    ∃ c cs, itemsChars (item :: items) = c :: cs ∧ isGap c = false ∧ c ≠ ']' := by
  obtain ⟨c, cs, first, solid, filled⟩ := item.form.exists_chars_eq_cons
  cases items with
  | nil => exact ⟨c, _, by rw [itemsChars, first, List.cons_append], solid, filled⟩
  | cons item' items =>
    exact ⟨c, _, by rw [itemsChars_cons_cons, first, List.cons_append], solid, filled⟩

/-- The members of an object after the quote that opens the first key. -/
theorem membersChars_eq_cons (m : Member Form) (ms : List (Member Form)) :
    ∃ cs, membersChars (m :: ms) = '"' :: cs := by
  cases ms with
  | nil => exact ⟨_, by rw [membersChars]⟩
  | cons m' ms => exact ⟨_, membersChars_cons_cons m m' ms⟩

theorem Form.chars_ne_nil (f : Form) : f.chars ≠ [] := by
  obtain ⟨c, cs, first, -⟩ := f.exists_chars_eq_cons
  simp [first]

mutual

/-- A form is scanned as what it is, and the scan goes on where the form ends. -/
theorem scanNode_form (f : Form) (fuel depth : Nat) {rest : List Char} (breaks : Breaks rest)
    (enough : 2 * f.chars.length ≤ fuel + 1) :
    scanNode fuel depth (f.chars ++ rest) = (f.node depth, some rest) := by
  obtain ⟨fuel, rfl⟩ : ∃ n, fuel = n + 1 :=
    Nat.exists_eq_add_one.mpr (by have := List.length_pos_iff.mpr f.chars_ne_nil; omega)
  match f with
  | .null => exact scanWord_append ['u', 'l', 'l'] .null rest
  | .bool true => exact scanWord_append ['r', 'u', 'e'] (.bool true) rest
  | .bool false => exact scanWord_append ['a', 'l', 's', 'e'] (.bool false) rest
  | .number n => exact scanNode_number n breaks
  | .string strokes => exact scanNode_string strokes
  | .array blank items =>
    simp only [Form.chars, List.length_cons, List.length_append] at enough
    cases kind : items with
    | nil => simpa [Form.chars, itemsChars, Form.node, itemNodes] using scanNode_array_nil blank
    | cons item more =>
      have scanned := scanItems_form items fuel (depth + 1) rest (by simp [kind]) (by omega)
      obtain ⟨c, cs, first, solid, filled⟩ := itemsChars_eq_cons item more
      rw [kind, first, List.cons_append] at scanned
      simpa [Form.chars, first, Form.node] using scanNode_array solid filled scanned
  | .object blank ms =>
    simp only [Form.chars, List.length_cons, List.length_append] at enough
    cases kind : ms with
    | nil =>
      simpa [Form.chars, membersChars, Form.node, memberNodes] using scanNode_object_nil blank
    | cons m more =>
      obtain ⟨cs, first⟩ := membersChars_eq_cons m more
      have scanned := scanMembers_form ms fuel (depth + 1) rest (kind ▸ first) (by omega)
      rw [kind] at scanned
      simpa [Form.chars, first, Form.node] using scanNode_object blank scanned

/-- The elements of an array are scanned up to its bracket. -/
theorem scanItems_form (items : List (Item Form)) (fuel depth : Nat) (rest : List Char)
    (filled : items ≠ []) (enough : 2 * (itemsChars items).length ≤ fuel) :
    scanItems fuel depth (itemsChars items ++ rest) =
      (itemNodes depth items, .closed, some rest) := by
  match items with
  | [] => exact (filled rfl).elim
  | [⟨form, after, next⟩] =>
    simp only [itemsChars, List.length_append, List.length_cons, List.length_nil] at enough
    obtain ⟨fuel, rfl⟩ : ∃ n, fuel = n + 1 := Nat.exists_eq_add_one.mpr (by omega)
    have scanned := scanNode_form form fuel depth
      (Breaks.gap after (c := ']') rest (by decide)) (by omega)
    simpa [itemsChars, itemNodes] using scanItems_last scanned
  | ⟨form, after, next⟩ :: item :: items =>
    simp only [itemsChars_cons_cons, List.length_append, List.length_cons] at enough
    obtain ⟨fuel, rfl⟩ : ∃ n, fuel = n + 1 := Nat.exists_eq_add_one.mpr (by omega)
    have onward := scanItems_form (item :: items) fuel depth rest (by simp) (by omega)
    obtain ⟨c, cs, first, solid, filled⟩ := itemsChars_eq_cons item items
    rw [first, List.cons_append] at onward
    have scanned := scanNode_form form fuel depth
      (Breaks.gap after (c := ',') (next.val ++ c :: (cs ++ rest)) (by decide)) (by omega)
    simpa [itemsChars_cons_cons, first, itemNodes] using
      scanItems_cons solid filled scanned onward

/-- The members of an object are scanned up to its bracket. -/
theorem scanMembers_form (ms : List (Member Form)) (fuel depth : Nat) (rest : List Char)
    {cs : List Char} (first : membersChars ms = '"' :: cs)
    (enough : 2 * (membersChars ms).length ≤ fuel) :
    scanMembers fuel depth (cs ++ rest) = (memberNodes depth ms, .closed, some rest) := by
  match ms with
  | [] => simp [membersChars] at first
  | [⟨key, before, between, form, after, next⟩] =>
    simp only [membersChars, List.length_append, List.length_cons, List.length_nil] at enough
    simp only [membersChars, List.cons.injEq, true_and] at first
    obtain ⟨fuel, rfl⟩ : ∃ n, fuel = n + 1 := Nat.exists_eq_add_one.mpr (by omega)
    obtain ⟨c, ds, opening, solid, -⟩ := form.exists_chars_eq_cons
    have scanned := scanNode_form form fuel depth
      (Breaks.gap after (c := '\x7d') rest (by decide)) (by omega)
    rw [opening, List.cons_append] at scanned
    simpa [← first, opening, memberNodes] using scanMembers_last solid scanned
  | ⟨key, before, between, form, after, next⟩ :: m :: ms =>
    simp only [membersChars_cons_cons, List.length_append, List.length_cons] at enough
    simp only [membersChars_cons_cons, List.cons.injEq, true_and] at first
    obtain ⟨fuel, rfl⟩ : ∃ n, fuel = n + 1 := Nat.exists_eq_add_one.mpr (by omega)
    obtain ⟨c, ds, opening, solid, -⟩ := form.exists_chars_eq_cons
    obtain ⟨cs', first'⟩ := membersChars_eq_cons m ms
    have onward := scanMembers_form (m :: ms) fuel depth rest first' (by omega)
    have scanned := scanNode_form form fuel depth
      (Breaks.gap after (c := ',') (next.val ++ '"' :: (cs' ++ rest)) (by decide)) (by omega)
    rw [opening, List.cons_append] at scanned
    simpa [← first, first', opening, memberNodes] using
      scanMembers_cons solid scanned onward

end

/-- Blanks alone break off a number. -/
theorem Breaks.gaps (gap : Gap) : Breaks gap.val := by
  intro c here
  refine Breaks.gap gap (c := ',') [] (by decide) c ?_
  rw [List.head?_append, here, Option.some_or]

/-- The text of a form, with blanks around it. -/
def spaced (before : Gap) (f : Form) (after : Gap) : String :=
  String.ofList (before.val ++ (f.chars ++ after.val))

/-- The document that a form is, whatever blanks are around it. -/
theorem ofText_form (before after : Gap) (f : Form) :
    Document.ofText (spaced before f after) = ⟨f.node 0, true⟩ := by
  obtain ⟨c, cs, first, solid, -⟩ := f.exists_chars_eq_cons
  have opened : skipGaps (before.val ++ (f.chars ++ after.val)) = f.chars ++ after.val := by
    rw [skipGaps_gap, first, List.cons_append, skipGaps_cons solid]
  have closed : skipGaps after.val = [] := by simpa [skipGaps] using skipGaps_gap after []
  have scanned := scanNode_form f (2 * (f.chars ++ after.val).length + 1) 0 (.gaps after)
    (by rw [List.length_append]; omega)
  simp only [spaced, Document.ofText, String.toList_ofList, opened, scanned, Option.map_some,
    closed, List.isEmpty_nil, Option.getD_some]

/-! ## Forms nobody wants -/

mutual

/-- A form is passed over, whatever it is. -/
theorem skip_node (f : Form) (depth : Nat) : (f.node depth).skip = .ok () := by
  match f with
  | .null => rfl
  | .bool b => rfl
  | .number n =>
    rw [Form.node, Figure.node]
    split <;> rfl
  | .string strokes =>
    rw [Form.node, stringNode]
    split <;> rfl
  | .array _ items =>
    simp only [Form.node, Node.skip, skip_itemNodes items]
    rfl
  | .object _ ms =>
    simp only [Form.node, Node.skip, skip_memberNodes ms]
    rfl

theorem skip_itemNodes (items : List (Item Form)) (depth : Nat) :
    skipItems (itemNodes depth items) = .ok () := by
  match items with
  | [] => rfl
  | ⟨form, _, _⟩ :: items =>
    simp only [itemNodes, skipItems, skip_node form, skip_itemNodes items]
    rfl

theorem skip_memberNodes (ms : List (Member Form)) (depth : Nat) :
    skipMembers (memberNodes depth ms) = .ok () := by
  match ms with
  | [] => rfl
  | ⟨_, _, _, form, _, _⟩ :: ms =>
    simp only [memberNodes, skipMembers, skip_node form, skip_memberNodes ms]
    rfl

end

end Mosaic.Json
