import Mathlib.Data.List.Forall2
import Mathlib.Tactic.SplitIfs
import Mosaic.Proofs.Forms

/-!
# What forms tell

A form tells a value if a reader who knows no more than the grammar takes it for that value: its
strings spell the texts, its numbers are the digits of the integers, and its objects list the
entries in whatever order. A form that tells a value is read as that value, unless there are more
brackets than can be read.

## Main definitions

* `Ordered.Rising`, `Value.Sorted` — the tables that there are
* `Spells` — the text that a string spells
* `Form.Tells` — the value that a form tells
* `Value.nesting` — how many brackets stand inside each other
* `Value.Floatless` — values without doubles
* `Form.Mirrors` — a form is a value as it stands, not just up to the order of its members

## Main results

* `Ordered.ofList_of_perm` — a table is made anew from its entries in any order
* `toValue_node` — a form is read as the value that it tells
* `exists_form` — the compact text of a value without doubles is a form that tells it
* `ofText_text` — and the document it holds is that value
-/

set_option autoImplicit false

namespace Mosaic.Ordered

variable {α : Type} {name : String} {entry : α} {table : List (String × α)}

/-! ## Tables -/

/-- The names of a table rise. -/
def Rising (table : List (String × α)) : Prop := table.Pairwise fun e e' => e.1 < e'.1

theorem mem_put {e : String × α} (h : e ∈ put name entry table) :
    e = (name, entry) ∨ e ∈ table := by
  fun_induction put name entry table <;> grind

theorem Rising.put (rising : Rising table) : Rising (put name entry table) := by
  induction table with
  | nil => exact List.pairwise_singleton _ _
  | cons head rest ih =>
    obtain ⟨below, rising⟩ := List.pairwise_cons.mp rising
    rw [Ordered.put]
    split_ifs with before same
    · refine List.pairwise_cons.mpr ⟨fun e here => ?_, List.pairwise_cons.mpr ⟨below, rising⟩⟩
      rcases List.mem_cons.mp here with rfl | later
      · exact before
      · exact String.lt_trans before (below e later)
    · exact List.pairwise_cons.mpr ⟨same ▸ below, rising⟩
    · refine List.pairwise_cons.mpr ⟨fun e here => ?_, ih rising⟩
      rcases mem_put here with rfl | later
      · exact (Std.lt_trichotomy name head.1).resolve_left before |>.resolve_left same
      · exact below e later

/-- A new entry is one more. -/
theorem put_perm (fresh : ∀ e ∈ table, e.1 ≠ name) :
    (put name entry table).Perm ((name, entry) :: table) := by
  induction table with
  | nil => exact .refl _
  | cons head rest ih =>
    obtain ⟨other, fresh⟩ := List.forall_mem_cons.mp fresh
    rw [put]
    split_ifs with before same
    · exact .refl _
    · exact (other same.symm).elim
    · exact ((ih fresh).cons head).trans (.swap _ _ _)

theorem foldl_put {order : List (String × α)} (rising : Rising table)
    (apart : (order ++ table).Pairwise fun e e' => e.1 ≠ e'.1) :
    Rising (order.foldl (fun t e => put e.1 e.2 t) table) ∧
      (order.foldl (fun t e => put e.1 e.2 t) table).Perm (order ++ table) := by
  induction order generalizing table with
  | nil => exact ⟨rising, .refl _⟩
  | cons e order ih =>
    obtain ⟨others, apart⟩ := List.pairwise_cons.mp apart
    have added : (put e.1 e.2 table).Perm (e :: table) :=
      put_perm fun e' here => (others e' (List.mem_append_right _ here)).symm
    have moved : (order ++ put e.1 e.2 table).Perm (e :: (order ++ table)) :=
      (added.append_left order).trans List.perm_middle
    obtain ⟨sorted, all⟩ := ih rising.put
      ((moved.pairwise_iff Ne.symm).mpr (List.pairwise_cons.mpr ⟨others, apart⟩))
    exact ⟨sorted, all.trans moved⟩

theorem Rising.apart (rising : Rising table) : table.Pairwise fun e e' => e.1 ≠ e'.1 :=
  rising.imp fun {_ e'} below same => by
    rw [same] at below
    exact String.lt_irrefl e'.1 below

/-- A table is made anew from its entries in any order. -/
theorem ofList_of_perm {order : List (String × α)} (rising : Rising table)
    (perm : order.Perm table) : ofList order = table := by
  have apart : (order ++ []).Pairwise fun e e' : String × α => e.1 ≠ e'.1 := by
    rw [List.append_nil]
    exact (perm.pairwise_iff Ne.symm).mpr rising.apart
  obtain ⟨sorted, all⟩ := foldl_put List.Pairwise.nil apart
  rw [List.append_nil] at all
  exact (all.trans perm).eq_of_pairwise
    (fun e e' _ _ below above => (String.lt_asymm below above).elim) sorted rising

end Mosaic.Ordered

namespace Mosaic.Json

/-! ## Strings -/

/-- The text that a string spells. -/
inductive Spells : List Stroke → List Char → Prop
  | nil : Spells [] []
  | plain (c : Char) (fits) {strokes : List Stroke} {cs : List Char} (more : Spells strokes cs) :
      Spells (.plain c fits :: strokes) (c :: cs)
  | escape (letter meant : Char) (known) {strokes : List Stroke} {cs : List Char}
      (more : Spells strokes cs) : Spells (.escape letter meant known :: strokes) (meant :: cs)
  /-- Digits that are no surrogate are the code of a character. -/
  | digits (a b c d : Char) (n : Nat) (value) (single : n < 0xd800 ∨ 0xdfff < n)
      {strokes : List Stroke} {cs : List Char} (more : Spells strokes cs) :
      Spells (.digits a b c d n value :: strokes) (Char.ofNat n :: cs)
  /-- Surrogates come in pairs, ten bits each. -/
  | pair (a b c d : Char) (n : Nat) (value) (a' b' c' d' : Char) (n' : Nat) (value')
      (high : 0xd800 ≤ n ∧ n < 0xdc00) (low : 0xdc00 ≤ n' ∧ n' < 0xe000)
      {strokes : List Stroke} {cs : List Char} (more : Spells strokes cs) :
      Spells (.digits a b c d n value :: .digits a' b' c' d' n' value' :: strokes)
        (Char.ofNat (0x10000 + (n - 0xd800) * 0x400 + (n' - 0xdc00)) :: cs)

theorem Spells.join_eq {strokes : List Stroke} {cs : List Char} (spells : Spells strokes cs) :
    join (.closed []) (strokes.map Stroke.piece) = .ok cs := by
  induction spells with
  | nil => rfl
  | plain c fits more ih => simp [Stroke.piece, join, ih, Except.map]
  | escape letter meant known more ih => simp [Stroke.piece, join, ih, Except.map]
  | digits a b c d n value single more ih =>
    have opens : opensPair n = false := by simp [opensPair]; omega
    have closes : closesPair n = false := by simp [closesPair]; omega
    rw [List.map_cons, Stroke.piece, join.eq_def]
    simp [opens, closes, ih, Except.map]
  | pair a b c d n value a' b' c' d' n' value' high low more ih =>
    have opens : opensPair n = true := by simp [opensPair]; omega
    have closes : closesPair n = false := by simp [closesPair]; omega
    have closed : closesPair n' = true := by simp [closesPair]; omega
    simp [Stroke.piece, join, opens, closes, closed, ih, Except.map]

/-- A string is read as what it spells. -/
theorem Spells.text {strokes : List Stroke} {s : String} (spells : Spells strokes s.toList) :
    strokesText strokes = .ok s := by
  rw [strokesText, spells.join_eq, Except.map, String.ofList_toList]

theorem stringNode_of_spells {strokes : List Stroke} {s : String}
    (spells : Spells strokes s.toList) : stringNode strokes = .string s := by
  rw [stringNode, spells.text]

/-! ## Integers -/

theorem le_ofDigitChars (ds : List Char) (n : Nat) : n ≤ Nat.ofDigitChars 10 ds n := by
  rw [Nat.ofDigitChars_eq_ofDigitChars_zero]
  exact Nat.le_trans (Nat.le_mul_of_pos_left n (Nat.pow_pos (by decide))) (Nat.le_add_right _ _)

/-- As long as a number fits, it takes all its digits. -/
theorem grow_eq {ds : List Char} {n : Nat} (fits : Nat.ofDigitChars 10 ds n < 0x10000000000000000) :
    grow n ds = (Nat.ofDigitChars 10 ds n, []) := by
  induction ds generalizing n with
  | nil => rfl
  | cons d ds ih =>
    have next : Nat.ofDigitChars 10 (d :: ds) n =
        Nat.ofDigitChars 10 ds (n * 10 + digitValue d) := by
      rw [Nat.ofDigitChars_cons, Nat.mul_comm, digitValue]
    rw [next] at fits ⊢
    rw [grow, if_neg (by have := le_ofDigitChars ds (n * 10 + digitValue d); omega), ih fits]

theorem head?_toDigits {n : Nat} (zero : (Nat.toDigits 10 n).head? = some '0') : n = 0 := by
  induction n using Nat.strongRecOn with
  | ind n ih =>
    rcases Nat.lt_or_ge n 10 with small | large
    · simpa [Nat.toDigits_of_lt_base small] using zero
    · have first : (Nat.toDigits 10 (n / 10)).head? = some '0' := by
        obtain ⟨d, ds, digits⟩ : ∃ d ds, Nat.toDigits 10 (n / 10) = d :: ds :=
          List.exists_cons_of_ne_nil Nat.toDigits_ne_nil
        rw [Nat.toDigits_of_base_le (by decide) large, digits] at zero
        rwa [digits]
      have := ih (n / 10) (by omega) first
      omega

/-- An integer as it is written. -/
def Figure.ofInt (i : Int) : Figure where
  negative := i < 0
  whole := ⟨Nat.toDigits 10 i.natAbs, Nat.toDigits_ne_nil,
    fun _ => Nat.isDigit_of_mem_toDigits (by decide) (by decide)⟩
  lean := fun zero => by
    rw [head?_toDigits zero]
    rfl
  fraction := none
  exponent := none

theorem Figure.ofInt_chars (i : Int) : (Figure.ofInt i).chars = Number.integerChars i := by
  by_cases negative : i < 0 <;>
    simp [chars, tailChars, ofInt, Number.integerChars, negative]

theorem integerOf_natAbs (i : Integer) :
    integerOf (i.value < 0) i.value.natAbs = .ok (.integer i) := by
  obtain ⟨i, lower, upper⟩ := i
  dsimp only
  rw [integerOf]
  by_cases negative : i < 0
  · have fits : 0 < i.natAbs ∧ i.natAbs ≤ 0x8000000000000000 := by omega
    rw [if_pos (decide_eq_true negative), dif_pos fits]
    simp only [Except.ok.injEq, Number.integer.injEq, Integer.mk.injEq]
    omega
  · have fits : i.natAbs < 0x10000000000000000 := by omega
    rw [if_neg (by simpa using negative), dif_pos fits]
    simp only [Except.ok.injEq, Number.integer.injEq, Integer.mk.injEq]
    omega

theorem Figure.ofInt_value (i : Integer) :
    (Figure.ofInt i.value).numeral.value = .ok (.integer i) := by
  have fits : i.value.natAbs < 0x10000000000000000 := by
    have := i.lower
    have := i.upper
    omega
  have grown : grow 0 (Nat.toDigits 10 i.value.natAbs) = (i.value.natAbs, []) := by
    rw [grow_eq (by rwa [Nat.ofDigitChars_ten_toDigits]), Nat.ofDigitChars_ten_toDigits]
  simp only [Numeral.value, numeral, ofInt, grown, Option.map_none, Option.getD_none]
  rw [if_pos ⟨trivial, trivial, trivial⟩]
  exact integerOf_natAbs i

/-- A number is told by its text alone. -/
theorem Figure.numeral_congr {n n' : Figure} (same : n.chars = n'.chars) :
    n.numeral = n'.numeral := by
  have one := scanNumeral_figure n .nil
  have other := scanNumeral_figure n' .nil
  rw [same, other] at one
  simpa using one.symm

/-- A number that is written like an integer is read as that integer. -/
theorem Figure.node_of_chars {n : Figure} {i : Integer}
    (same : n.chars = (Number.integer i).chars) : n.node = .number (.integer i) := by
  rw [node, numeral_congr (same.trans (ofInt_chars i.value).symm), ofInt_value]

/-! ## Values -/

/-- The tables inside a value are sorted by name. -/
inductive Value.Sorted : Value → Prop
  | null : Sorted .null
  | bool (b : Bool) : Sorted (.bool b)
  | number (n : Number) : Sorted (.number n)
  | string (s : String) : Sorted (.string s)
  | array {items : List Value} (all : ∀ v ∈ items, v.Sorted) : Sorted (.array items)
  | object {entries : List (String × Value)} (rising : Ordered.Rising entries)
      (all : ∀ e ∈ entries, e.2.Sorted) : Sorted (.object entries)

mutual

/-- How many brackets of a value stand inside each other. -/
def Value.nesting : Value → Nat
  | .null | .bool _ | .number _ | .string _ => 0
  | .array items => itemsNesting items + 1
  | .object entries => entriesNesting entries + 1

/-- The deepest nesting among the elements of an array. -/
def itemsNesting : List Value → Nat
  | [] => 0
  | v :: rest => max v.nesting (itemsNesting rest)

/-- The deepest nesting among the members of an object. -/
def entriesNesting : List (String × Value) → Nat
  | [] => 0
  | (_, v) :: rest => max v.nesting (entriesNesting rest)

end

theorem nesting_le_itemsNesting {items : List Value} {v : Value} (here : v ∈ items) :
    v.nesting ≤ itemsNesting items := by
  induction items with
  | nil => cases here
  | cons first rest ih =>
    rcases List.mem_cons.mp here with rfl | later
    · exact Nat.le_max_left _ _
    · exact Nat.le_trans (ih later) (Nat.le_max_right _ _)

theorem nesting_le_entriesNesting {entries : List (String × Value)} {e : String × Value}
    (here : e ∈ entries) : e.2.nesting ≤ entriesNesting entries := by
  induction entries with
  | nil => cases here
  | cons first rest ih =>
    rcases List.mem_cons.mp here with rfl | later
    · exact Nat.le_max_left _ _
    · exact Nat.le_trans (ih later) (Nat.le_max_right _ _)

mutual

/-- A form tells a value. -/
def Form.Tells : Form → Value → Prop
  | .null, v => v = .null
  | .bool b, v => v = .bool b
  | .number n, v => ∃ i, v = .number (.integer i) ∧ n.chars = (Number.integer i).chars
  | .string strokes, v => ∃ s, v = .string s ∧ Spells strokes s.toList
  | .array _ items, v => ∃ values, v = .array values ∧ itemsTell items values
  | .object _ members, v =>
    ∃ entries order, v = .object entries ∧ order.Perm entries ∧ membersTell members order

/-- The elements of an array tell values one by one. -/
def itemsTell : List (Item Form) → List Value → Prop
  | [], values => values = []
  | ⟨form, _, _⟩ :: items, values =>
    ∃ v rest, values = v :: rest ∧ form.Tells v ∧ itemsTell items rest

/-- The members of an object tell entries one by one. -/
def membersTell : List (Member Form) → List (String × Value) → Prop
  | [], entries => entries = []
  | ⟨key, _, _, form, _, _⟩ :: members, entries =>
    ∃ name v rest, entries = (name, v) :: rest ∧ Spells key name.toList ∧ form.Tells v ∧
      membersTell members rest

end

theorem Form.node_of_tells_null {f : Form} (tells : f.Tells .null) (depth : Nat) :
    f.node depth = .null := by
  cases f <;> simp_all [Tells, node]

theorem Form.node_of_tells_bool {f : Form} {b : Bool} (tells : f.Tells (.bool b)) (depth : Nat) :
    f.node depth = .bool b := by
  cases f <;> simp_all [Tells, node]

theorem Form.node_of_tells_string {f : Form} {s : String} (tells : f.Tells (.string s))
    (depth : Nat) : f.node depth = .string s := by
  cases f with
  | string strokes =>
    obtain ⟨_, ⟨⟩, spells⟩ := tells
    exact stringNode_of_spells spells
  | _ => simp [Tells] at tells

theorem Form.node_of_tells_integer {f : Form} {i : Integer} (tells : f.Tells (.number (.integer i)))
    (depth : Nat) : f.node depth = .number (.integer i) := by
  cases f with
  | number n =>
    obtain ⟨_, ⟨⟩, same⟩ := tells
    exact n.node_of_chars same
  | _ => simp [Tells] at tells

theorem Form.exists_of_tells_array {f : Form} {values : List Value}
    (tells : f.Tells (.array values)) :
    ∃ blank items, f = .array blank items ∧ itemsTell items values := by
  cases f with
  | array blank items =>
    obtain ⟨_, ⟨⟩, tell⟩ := tells
    exact ⟨blank, items, rfl, tell⟩
  | _ => simp [Tells] at tells

theorem Form.exists_of_tells_object {f : Form} {entries : List (String × Value)}
    (tells : f.Tells (.object entries)) :
    ∃ blank members order, f = .object blank members ∧ order.Perm entries ∧
      membersTell members order := by
  cases f with
  | object blank members =>
    obtain ⟨_, order, ⟨⟩, perm, tell⟩ := tells
    exact ⟨blank, members, order, rfl, perm, tell⟩
  | _ => simp [Tells] at tells

mutual

/-- A form is read as the value that it tells. -/
theorem toValue_node {f : Form} {v : Value} {depth : Nat} (tells : f.Tells v) (sorted : v.Sorted)
    (shallow : depth + v.nesting ≤ depthLimit) : (f.node depth).toValue = .ok v := by
  match f with
  | .null =>
    obtain rfl : v = .null := tells
    rfl
  | .bool b =>
    obtain rfl : v = .bool b := tells
    rfl
  | .number n =>
    obtain ⟨i, rfl, same⟩ := tells
    rw [Form.node, n.node_of_chars same, Node.toValue]
  | .string strokes =>
    obtain ⟨s, rfl, spells⟩ := tells
    rw [Form.node, stringNode_of_spells spells, Node.toValue]
  | .array blank items =>
    obtain ⟨values, rfl, tell⟩ := tells
    obtain - | - | - | - | all | - := sorted
    rw [Value.nesting] at shallow
    have read := itemValues_nodes (d := depth + 1) tell all fun v here => by
      have := nesting_le_itemsNesting here
      omega
    have near : ¬ depthLimit ≤ depth := by omega
    simp [Form.node, Node.toValue, near, read, Tail.read, bind, Except.bind, pure, Except.pure]
  | .object blank members =>
    obtain ⟨entries, order, rfl, perm, tell⟩ := tells
    obtain - | - | - | - | - | ⟨rising, all⟩ := sorted
    rw [Value.nesting] at shallow
    have read := memberValues_nodes (d := depth + 1) [] tell
      (fun e here => all e (perm.mem_iff.mp here)) fun e here => by
        have := nesting_le_entriesNesting (perm.mem_iff.mp here)
        omega
    have near : ¬ depthLimit ≤ depth := by omega
    have table : order.foldl (fun t e => Ordered.put e.1 e.2 t) [] = entries :=
      Ordered.ofList_of_perm rising perm
    simp [Form.node, Node.toValue, near, read, table, Tail.read, bind, Except.bind, pure,
      Except.pure]

theorem itemValues_nodes {items : List (Item Form)} {values : List Value} {d : Nat}
    (tell : itemsTell items values) (sorted : ∀ v ∈ values, v.Sorted)
    (shallow : ∀ v ∈ values, d + v.nesting ≤ depthLimit) :
    itemValues (itemNodes d items) = .ok values := by
  match items with
  | [] =>
    obtain rfl : values = [] := tell
    rfl
  | ⟨form, _, _⟩ :: items =>
    obtain ⟨v, rest, rfl, tells, tell⟩ := tell
    obtain ⟨first, sorted⟩ := List.forall_mem_cons.mp sorted
    obtain ⟨near, shallow⟩ := List.forall_mem_cons.mp shallow
    simp [itemNodes, itemValues, toValue_node tells first near,
      itemValues_nodes tell sorted shallow, bind, Except.bind, pure, Except.pure]

theorem memberValues_nodes (table : List (String × Value)) {members : List (Member Form)}
    {entries : List (String × Value)} {d : Nat} (tell : membersTell members entries)
    (sorted : ∀ e ∈ entries, e.2.Sorted) (shallow : ∀ e ∈ entries, d + e.2.nesting ≤ depthLimit) :
    memberValues table (memberNodes d members) =
      .ok (entries.foldl (fun t e => Ordered.put e.1 e.2 t) table) := by
  match members with
  | [] =>
    obtain rfl : entries = [] := tell
    rfl
  | ⟨key, _, _, form, _, _⟩ :: members =>
    obtain ⟨name, v, rest, rfl, spells, tells, tell⟩ := tell
    obtain ⟨first, sorted⟩ := List.forall_mem_cons.mp sorted
    obtain ⟨near, shallow⟩ := List.forall_mem_cons.mp shallow
    simp [memberNodes, memberValues, spells.text, toValue_node tells first near,
      memberValues_nodes _ tell sorted shallow, bind, Except.bind]

end

/-! ## Compact texts -/

/-- No number inside a value is a double. -/
inductive Value.Floatless : Value → Prop
  | null : Floatless .null
  | bool (b : Bool) : Floatless (.bool b)
  | integer (i : Integer) : Floatless (.number (.integer i))
  | string (s : String) : Floatless (.string s)
  | array {items : List Value} (all : ∀ v ∈ items, v.Floatless) : Floatless (.array items)
  | object {entries : List (String × Value)} (all : ∀ e ∈ entries, e.2.Floatless) :
      Floatless (.object entries)

theorem hexValue?_hexPair {n : Nat} (small : n < 0x100) :
    Text.hexValue? ('0' :: '0' :: hexPair n) = some n := by
  have zero : Text.hexDigit? '0' = some 0 := by decide
  simp only [hexPair, Text.hexValue?, List.foldlM_cons, List.foldlM_nil, zero,
    Text.hexDigit?_digitChar (n / 16) (by omega), Text.hexDigit?_digitChar (n % 16) (by omega),
    Option.map_some, Option.bind_eq_bind, Option.bind_some, Option.pure_def, Option.some.injEq]
  omega

theorem exists_escape (letter c : Char) (known : (letter, c) ∈ escapes) :
    ∃ stroke : Stroke, stroke.chars = ['\\', letter] ∧
      ∀ {strokes cs}, Spells strokes cs → Spells (stroke :: strokes) (c :: cs) :=
  ⟨.escape letter c known, rfl, .escape letter c known⟩

theorem exists_stroke (c : Char) :
    ∃ stroke : Stroke, stroke.chars = escapeChar c ∧
      ∀ {strokes cs}, Spells strokes cs → Spells (stroke :: strokes) (c :: cs) := by
  unfold escapeChar
  split_ifs with quote slash back feed line start tab control
  · exact quote ▸ exists_escape '"' '"' (by decide)
  · exact slash ▸ exists_escape '\\' '\\' (by decide)
  · exact back ▸ exists_escape 'b' '\x08' (by decide)
  · exact feed ▸ exists_escape 'f' '\x0c' (by decide)
  · exact line ▸ exists_escape 'n' '\n' (by decide)
  · exact start ▸ exists_escape 'r' '\r' (by decide)
  · exact tab ▸ exists_escape 't' '\t' (by decide)
  · have value := hexValue?_hexPair (n := c.toNat) (by omega)
    refine ⟨.digits _ _ _ _ c.toNat value, rfl, fun spells => ?_⟩
    have read := Spells.digits _ _ _ _ _ value (.inl (by omega)) spells
    rwa [Char.ofNat_toNat] at read
  · exact ⟨.plain c ⟨quote, slash, by omega⟩, rfl, .plain _ _⟩

/-- Every text can be spelled. -/
theorem exists_strokes (s : String) :
    ∃ strokes, '"' :: strokeChars strokes = stringChars s ∧ Spells strokes s.toList := by
  suffices all : ∀ cs : List Char, ∃ strokes : List Stroke,
      strokes.flatMap Stroke.chars = cs.flatMap escapeChar ∧ Spells strokes cs by
    obtain ⟨strokes, chars, spells⟩ := all s.toList
    exact ⟨strokes, by simp [strokeChars, stringChars, chars], spells⟩
  intro cs
  induction cs with
  | nil => exact ⟨[], rfl, .nil⟩
  | cons c cs ih =>
    obtain ⟨strokes, chars, spells⟩ := ih
    obtain ⟨stroke, first, spell⟩ := exists_stroke c
    exact ⟨stroke :: strokes, by simp [first, chars], spell spells⟩

/-- If the compact text of every element is a form as it is asked for, such elements can be listed
as they stand in compact texts. -/
theorem exists_items {P : Value → Form → Prop} {values : List Value}
    (each : ∀ v ∈ values, ∃ f : Form, f.chars = v.chars ∧ P v f) :
    ∃ items, itemsChars items = itemChars values ++ [']'] ∧
      List.Forall₂ (fun v item => P v item.form) values items := by
  induction values with
  | nil => exact ⟨[], rfl, .nil⟩
  | cons v values ih =>
    obtain ⟨⟨f, chars, fits⟩, each⟩ := List.forall_mem_cons.mp each
    obtain ⟨items, more, all⟩ := ih each
    refine ⟨⟨f, .none, .none⟩ :: items, ?_, .cons fits all⟩
    cases all with
    | nil => simp [itemsChars, itemChars, Gap.none, chars]
    | cons => simp [itemsChars_cons_cons, more, itemChars, Gap.none, chars]

/-- If the compact text of every entry is a form as it is asked for, such members can be listed as
they stand in compact texts. -/
theorem exists_members {P : String → Value → Form → Prop} {entries : List (String × Value)}
    (each : ∀ e ∈ entries, ∃ f : Form, f.chars = e.2.chars ∧ P e.1 e.2 f) :
    ∃ members, membersChars members = memberChars entries ++ ['\x7d'] ∧
      List.Forall₂ (fun e m => Spells m.key e.1.toList ∧ P e.1 e.2 m.form) entries members := by
  induction entries with
  | nil => exact ⟨[], rfl, .nil⟩
  | cons e entries ih =>
    obtain ⟨⟨f, chars, fits⟩, each⟩ := List.forall_mem_cons.mp each
    obtain ⟨members, more, all⟩ := ih each
    obtain ⟨key, written, spells⟩ := exists_strokes e.1
    refine ⟨⟨key, .none, .none, f, .none, .none⟩ :: members, ?_, .cons ⟨spells, fits⟩ all⟩
    cases all with
    | nil => simp [membersChars, memberChars, Gap.none, chars, ← written]
    | cons => simp [membersChars_cons_cons, more, memberChars, Gap.none, chars, ← written]

theorem itemsTell_of_forall₂ {values : List Value} {items : List (Item Form)}
    (all : List.Forall₂ (fun v item => item.form.Tells v) values items) :
    itemsTell items values := by
  induction all with
  | nil => rfl
  | cons first _ ih => exact ⟨_, _, rfl, first, ih⟩

theorem membersTell_of_forall₂ {entries : List (String × Value)} {members : List (Member Form)}
    (all : List.Forall₂ (fun e m => Spells m.key e.1.toList ∧ m.form.Tells e.2) entries members) :
    membersTell members entries := by
  induction all with
  | nil => rfl
  | cons first _ ih => exact ⟨_, _, _, rfl, first.1, first.2, ih⟩

/-- A form is the value itself as part of a document, unless there are more brackets than can be
read. -/
def Form.Mirrors (f : Form) (v : Value) : Prop :=
  ∀ ⦃depth : Nat⦄, depth + v.nesting ≤ depthLimit → f.node depth = .ofValue v

theorem mirrors_array {blank : Gap} {items : List (Item Form)} {values : List Value}
    (all : List.Forall₂ (fun v item => item.form.Mirrors v) values items) :
    (Form.array blank items).Mirrors (.array values) := by
  have nodes (depth : Nat) (shallow : depth + itemsNesting values ≤ depthLimit) :
      itemNodes depth items = nodesOf values := by
    induction all with
    | nil => rfl
    | cons first _ ih =>
      rw [itemsNesting] at shallow
      rw [itemNodes, nodesOf, first (by omega), ih (by omega)]
  intro depth shallow
  rw [Value.nesting] at shallow
  rw [Form.node, Node.ofValue, nodes (depth + 1) (by omega), decide_eq_false (by omega)]

theorem mirrors_object {blank : Gap} {members : List (Member Form)}
    {entries : List (String × Value)}
    (all : List.Forall₂ (fun e m => Spells m.key e.1.toList ∧ m.form.Mirrors e.2) entries
      members) : (Form.object blank members).Mirrors (.object entries) := by
  have nodes (depth : Nat) (shallow : depth + entriesNesting entries ≤ depthLimit) :
      memberNodes depth members = membersOf entries := by
    induction all with
    | nil => rfl
    | cons first _ ih =>
      rw [entriesNesting] at shallow
      rw [memberNodes, membersOf, first.1.text, first.2 (by omega), ih (by omega)]
  intro depth shallow
  rw [Value.nesting] at shallow
  rw [Form.node, Node.ofValue, nodes (depth + 1) (by omega), decide_eq_false (by omega)]

/-- The compact text of a value without doubles is a form that tells it as it stands. -/
theorem exists_mirror {v : Value} (floatless : v.Floatless) :
    ∃ f : Form, f.chars = v.chars ∧ f.Tells v ∧ f.Mirrors v := by
  induction floatless with
  | null => exact ⟨.null, rfl, rfl, fun _ _ => rfl⟩
  | bool b => exact ⟨.bool b, by cases b <;> rfl, rfl, fun _ _ => rfl⟩
  | integer i =>
    have chars := Figure.ofInt_chars i.value
    exact ⟨.number (.ofInt i.value), chars, ⟨i, rfl, chars⟩,
      fun _ _ => Figure.node_of_chars chars⟩
  | string s =>
    obtain ⟨strokes, written, spells⟩ := exists_strokes s
    exact ⟨.string strokes, written, ⟨s, rfl, spells⟩, fun _ _ => stringNode_of_spells spells⟩
  | array all ih =>
    obtain ⟨items, chars, all⟩ := exists_items (P := fun v f => f.Tells v ∧ f.Mirrors v) ih
    have tell := itemsTell_of_forall₂ (all.imp fun _ _ fits => fits.1)
    exact ⟨.array .none items, by simp [Form.chars, Value.chars, Gap.none, chars], ⟨_, rfl, tell⟩,
      mirrors_array (all.imp fun _ _ fits => fits.2)⟩
  | object all ih =>
    obtain ⟨members, chars, all⟩ := exists_members (P := fun _ v f => f.Tells v ∧ f.Mirrors v) ih
    have tell := membersTell_of_forall₂ (all.imp fun _ _ fits => ⟨fits.1, fits.2.1⟩)
    exact ⟨.object .none members, by simp [Form.chars, Value.chars, Gap.none, chars],
      ⟨_, _, rfl, .refl _, tell⟩, mirrors_object (all.imp fun _ _ fits => ⟨fits.1, fits.2.2⟩)⟩

/-- The compact text of a value without doubles is a form that tells it. -/
theorem exists_form {v : Value} (floatless : v.Floatless) :
    ∃ f : Form, f.chars = v.chars ∧ f.Tells v := by
  obtain ⟨f, chars, tells, -⟩ := exists_mirror floatless
  exact ⟨f, chars, tells⟩

theorem spaced_none {f : Form} {v : Value} (chars : f.chars = v.chars) :
    spaced .none f .none = v.text := by
  simp [spaced, Gap.none, chars, Value.text]

/-- The compact text of a value without doubles holds that value and nothing else. -/
theorem ofText_text {v : Value} (floatless : v.Floatless) (shallow : v.nesting ≤ depthLimit) :
    Document.ofText v.text = ⟨.ofValue v, true⟩ := by
  obtain ⟨f, chars, -, mirrors⟩ := exists_mirror floatless
  rw [← spaced_none chars, ofText_form, mirrors (by omega)]

end Mosaic.Json
