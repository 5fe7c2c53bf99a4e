import RoutePlanner.Proofs.DoubleText
import RoutePlanner.Json.Print
import RoutePlanner.Json.Parse

/-!
# Canonical JSON text determines the value

Compact JSON text can be read in one way only (`Value.render_append_inj`), for values whose
numbers are as a reader keeps them (`Value.wellFormed`). The argument is unique readability: the
first character of a value's text says what kind of value it is, and each kind ends at a point
that the text itself marks.

* A string ends at its closing quote: the library's own reader takes the escaped text back
  (`readValue_quote`), so a quoted string determines the string and where it ends.
* A number ends where its characters end (`numberChar`): a comma or a closing bracket or brace
  is none of them. Whole numbers are digits, negative ones a minus and digits, and doubles always
  show a point or an exponent; the text of a double determines the double
  (`Layout.render_injective`).
* An array or object is read item by item: each item ends before a comma or the closing bracket
  or brace, by induction on the value.

Canonical text is the compact text of the value with every object's fields sorted by key
(`Value.canonical_eq_render_sortDeep`). A value whose objects already keep their keys in strictly
ascending order, as a map ordered by key does, is its own sorted form, so canonical text is
injective on such values (`Value.canonical_injective`).
-/

namespace RoutePlanner.Json

open RoutePlanner.Number

/-! ### Values as a reader keeps them -/

/-- **A number as a reader keeps it**: a negative integer below zero, a double finite. -/
def Number.wellFormed : Number → Bool
  | .natural _ => true
  | .negative i => decide (i < 0)
  | .double x => isFinite x

/-- The keys of the fields in strictly ascending order, one field per key. -/
def keysAscending (fields : List (String × Value)) : Bool :=
  decide ((fields.map Prod.fst).Pairwise (· < ·))

mutual

/-- **A value as a reader keeps it**: every number well formed, and the keys of every object in
strictly ascending order, as in a map ordered by key. -/
def Value.wellFormed : Value → Bool
  | .number n => n.wellFormed
  | .array items => itemsWellFormed items
  | .object fields => keysAscending fields && fieldsWellFormed fields
  | _ => true

/-- Every item well formed. -/
def itemsWellFormed : List Value → Bool
  | [] => true
  | v :: vs => v.wellFormed && itemsWellFormed vs

/-- Every field's value well formed. -/
def fieldsWellFormed : List (String × Value) → Bool
  | [] => true
  | (_, v) :: fs => v.wellFormed && fieldsWellFormed fs

end

/-! ### Strings read back -/

theorem hexValue_hexDigit : ∀ n, n < 16 → hexValue (hexDigit n) = some n := by decide

theorem readHex4_escape {n : Nat} (hn : n < 32) (rest : List Char) :
    readHex4 ('0' :: '0' :: hexDigit (n / 16) :: hexDigit (n % 16) :: rest) = some (n, rest) := by
  have h0 : hexValue '0' = some 0 := by decide
  simp only [readHex4, h0, hexValue_hexDigit (n / 16) (by omega),
    hexValue_hexDigit (n % 16) (by omega)]
  simp
  omega

theorem readUnicodeEscape_of_lt {u : Nat} (hu : u < 0xD800) (rest : List Char) :
    readUnicodeEscape u rest = .ok (Char.ofNat u, rest) := by
  unfold readUnicodeEscape
  rw [if_neg (by omega), if_neg (by omega)]

/-- **What `escapeChar` writes**: one case per escape, and the character itself otherwise. -/
theorem escapeChar_cases (c : Char) :
    (c = '"' ∧ escapeChar c = ['\\', '"']) ∨ (c = '\\' ∧ escapeChar c = ['\\', '\\']) ∨
      (c = '\n' ∧ escapeChar c = ['\\', 'n']) ∨ (c = '\r' ∧ escapeChar c = ['\\', 'r']) ∨
      (c = '\t' ∧ escapeChar c = ['\\', 't']) ∨ (c.toNat = 8 ∧ escapeChar c = ['\\', 'b']) ∨
      (c.toNat = 12 ∧ escapeChar c = ['\\', 'f']) ∨
      (c.toNat < 0x20 ∧ escapeChar c =
        ['\\', 'u', '0', '0', hexDigit (c.toNat / 16), hexDigit (c.toNat % 16)]) ∨
      (c ≠ '"' ∧ c ≠ '\\' ∧ ¬c.toNat < 0x20 ∧ escapeChar c = [c]) := by
  -- the tests of `escapeChar` in order, each taken or passed
  unfold escapeChar
  by_cases h₁ : c = '"'
  · exact .inl ⟨h₁, if_pos h₁⟩
  rw [if_neg h₁]; refine .inr ?_
  by_cases h₂ : c = '\\'
  · exact .inl ⟨h₂, if_pos h₂⟩
  rw [if_neg h₂]; refine .inr ?_
  by_cases h₃ : c = '\n'
  · exact .inl ⟨h₃, if_pos h₃⟩
  rw [if_neg h₃]; refine .inr ?_
  by_cases h₄ : c = '\r'
  · exact .inl ⟨h₄, if_pos h₄⟩
  rw [if_neg h₄]; refine .inr ?_
  by_cases h₅ : c = '\t'
  · exact .inl ⟨h₅, if_pos h₅⟩
  rw [if_neg h₅]; refine .inr ?_
  by_cases h₆ : c.toNat = 8
  · exact .inl ⟨h₆, if_pos h₆⟩
  rw [if_neg h₆]; refine .inr ?_
  by_cases h₇ : c.toNat = 12
  · exact .inl ⟨h₇, if_pos h₇⟩
  rw [if_neg h₇]; refine .inr ?_
  by_cases h₈ : c.toNat < 0x20
  · exact .inl ⟨h₈, if_pos h₈⟩
  exact .inr ⟨h₁, h₂, h₈, if_neg h₈⟩

/-- **The reader takes back one escaped character**, whichever escape the printer chose. -/
theorem readStringBody_escapeChar (acc : List Char) (fuel : Nat) (c : Char) (rest : List Char) :
    readStringBody acc (fuel + 1) (escapeChar c ++ rest) = readStringBody (c :: acc) fuel rest := by
  rcases escapeChar_cases c with ⟨rfl, h⟩ | ⟨rfl, h⟩ | ⟨rfl, h⟩ | ⟨rfl, h⟩ | ⟨rfl, h⟩ |
    ⟨h₈, h⟩ | ⟨h₁₂, h⟩ | ⟨hlt, h⟩ | ⟨h₁, h₂, hge, h⟩ <;> rw [h]
  · rfl
  · rfl
  · rfl
  · rfl
  · rfl
  · obtain rfl : c = Char.ofNat 8 := by rw [← h₈, Char.ofNat_toNat]
    rfl
  · obtain rfl : c = Char.ofNat 12 := by rw [← h₁₂, Char.ofNat_toNat]
    rfl
  · -- the other control characters, as four hexadecimal digits
    have hstep : readStringBody acc (fuel + 1) ('\\' :: 'u' :: ('0' :: '0' ::
        hexDigit (c.toNat / 16) :: hexDigit (c.toNat % 16) :: rest)) =
          readStringBody (Char.ofNat c.toNat :: acc) fuel rest := by
      simp only [readStringBody, readHex4_escape hlt,
        readUnicodeEscape_of_lt (by omega : c.toNat < 0xD800)]
    simpa [Char.ofNat_toNat] using hstep
  · simp [readStringBody, hge]

theorem readStringBody_escaped : ∀ (cs acc : List Char) (fuel : Nat), cs.length < fuel →
    ∀ rest, readStringBody acc fuel (cs.flatMap escapeChar ++ '"' :: rest) =
      .ok (String.ofList (acc.reverse ++ cs), rest)
  | [], acc, fuel + 1, _, rest => by simp [readStringBody]
  | c :: cs, acc, fuel + 1, h, rest => by
    rw [List.flatMap_cons, List.append_assoc, readStringBody_escapeChar,
      readStringBody_escaped cs (c :: acc) fuel (by simp at h; omega)]
    simp

theorem length_le_flatMap_escapeChar : ∀ cs : List Char, cs.length ≤ (cs.flatMap escapeChar).length
  | [] => le_refl _
  | c :: cs => by
    have hc : 1 ≤ (escapeChar c).length := by
      rcases escapeChar_cases c with ⟨-, h⟩ | ⟨-, h⟩ | ⟨-, h⟩ | ⟨-, h⟩ | ⟨-, h⟩ | ⟨-, h⟩ |
        ⟨-, h⟩ | ⟨-, h⟩ | ⟨-, -, -, h⟩ <;> simp [h]
    have := length_le_flatMap_escapeChar cs
    simp only [List.flatMap_cons, List.length_append, List.length_cons]
    omega

theorem quote_toList_append (s : String) (rest : List Char) :
    (quote s).toList ++ rest = '"' :: (s.toList.flatMap escapeChar ++ '"' :: rest) := by
  simp [quote]

/-- **The reader reads a quoted string back**, whatever text follows it. -/
theorem readValue_quote (merge : Bool) (depth fuel : Nat) (s : String) (rest : List Char) :
    readValue merge depth (fuel + 1) ((quote s).toList ++ rest) = .ok (.string s, rest) := by
  have hlen := length_le_flatMap_escapeChar s.toList
  have hbody := readStringBody_escaped s.toList [] ((s.toList.flatMap escapeChar ++
    '"' :: rest).length + 1) (by simp only [List.length_append, List.length_cons]; omega) rest
  simp only [List.reverse_nil, List.nil_append, String.ofList_toList] at hbody
  have hskip : skipBlanks ('"' :: (s.toList.flatMap escapeChar ++ '"' :: rest)) =
      '"' :: (s.toList.flatMap escapeChar ++ '"' :: rest) := by
    simp [skipBlanks, isBlank]
  rw [quote_toList_append]
  simp only [readValue, hskip, hbody]

/-- **A quoted string determines the string and where it ends.** -/
theorem quote_append_inj {s t : String} {r r' : List Char}
    (h : (quote s).toList ++ r = (quote t).toList ++ r') : s = t ∧ r = r' := by
  have hs := readValue_quote true 1 0 s r
  rw [h, readValue_quote] at hs
  simp only [Except.ok.injEq, Prod.mk.injEq, Value.string.injEq] at hs
  exact ⟨hs.1.symm, hs.2.symm⟩

/-! ### Numbers -/

theorem Number.render_natural (n : Nat) :
    (Number.render (.natural n)).toList = Nat.toDigits 10 n :=
  Nat.toList_repr

theorem Number.render_negative {i : Int} (hi : i < 0) :
    (Number.render (.negative i)).toList = '-' :: Nat.toDigits 10 i.natAbs := by
  obtain ⟨m, rfl⟩ : ∃ m : Nat, i = -((m + 1 : Nat) : Int) := ⟨(-i).toNat - 1, by omega⟩
  rw [show Number.render (.negative (-((m + 1 : Nat) : Int))) = "-" ++ Nat.repr (m + 1) from rfl,
    String.toList_append, Nat.toList_repr, Int.natAbs_neg, Int.natAbs_natCast]
  simp

theorem Number.render_double {x : Float} (hx : isFinite x = true) :
    Number.render (.double x) = numberLayout.render x := by
  simp [Number.render, hx]

/-- Which kind of number: whole, negative whole, or double. -/
def Number.kind : Number → Nat
  | .natural _ => 0
  | .negative _ => 1
  | .double _ => 2

/-- The kind of number a number's text is: a double when it shows a point or an exponent, a
negative whole number when it starts with a minus, a whole number otherwise. -/
def numberTextKind (t : List Char) : Nat :=
  if '.' ∈ t ∨ 'e' ∈ t then 2 else if t.head? = some '-' then 1 else 0

theorem not_mem_toDigits {c : Char} (hc : c.isDigit = false) (n : Nat) :
    c ∉ Nat.toDigits 10 n :=
  fun h => by simp [isDigit_of_mem_toDigits h] at hc

/-- **The text of a number tells its kind**: only a double shows a point or an exponent, and
only a negative whole number starts with a minus. -/
theorem Number.numberTextKind_render {n : Number} (hn : n.wellFormed = true) :
    numberTextKind n.render.toList = n.kind := by
  have hpoint : ∀ m : Nat, ¬('.' ∈ Nat.toDigits 10 m ∨ 'e' ∈ Nat.toDigits 10 m) := fun m h =>
    h.elim (not_mem_toDigits (by decide) m) (not_mem_toDigits (by decide) m)
  cases n with
  | natural m =>
    have hhead : (Nat.toDigits 10 m).head? ≠ some '-' := fun h =>
      not_mem_toDigits (by decide) m (List.mem_of_head? h)
    rw [Number.render_natural, numberTextKind, if_neg (hpoint m), if_neg hhead]
    rfl
  | negative i =>
    have hi : i < 0 := by simpa [Number.wellFormed] using hn
    rw [Number.render_negative hi, numberTextKind, if_neg (by simpa using hpoint i.natAbs)]
    rfl
  | double x =>
    rw [Number.render_double hn, numberTextKind,
      if_pos (numberLayout.point_or_exponent_of_render rfl hn)]
    rfl

theorem Number.numberChar_of_mem_render {n : Number} (hn : n.wellFormed = true) :
    ∀ c ∈ n.render.toList, numberChar c = true := by
  cases n with
  | natural m =>
    rw [Number.render_natural]
    exact fun c => numberChar_of_mem_toDigits
  | negative i =>
    rw [Number.render_negative (by simpa [Number.wellFormed] using hn)]
    exact List.forall_mem_cons.2 ⟨by decide, fun c => numberChar_of_mem_toDigits⟩
  | double x =>
    rw [Number.render_double hn]
    exact numberLayout.numberChar_of_mem_render hn

theorem Number.render_ne_nil {n : Number} (hn : n.wellFormed = true) : n.render.toList ≠ [] := by
  cases n with
  | natural m => rw [Number.render_natural]; exact Nat.toDigits_ne_nil
  | negative i => rw [Number.render_negative (by simpa [Number.wellFormed] using hn)]; simp
  | double x =>
    rw [Number.render_double hn]
    rcases numberLayout.point_or_exponent_of_render rfl hn with h | h <;>
      exact List.ne_nil_of_mem h

/-- **The text of a well-formed number determines the number.** -/
theorem Number.render_injective {n m : Number} (hn : n.wellFormed = true)
    (hm : m.wellFormed = true) (h : n.render = m.render) : n = m := by
  have hk : n.kind = m.kind := by
    rw [← Number.numberTextKind_render hn, ← Number.numberTextKind_render hm, h]
  cases n <;> cases m <;> cases hk
  case natural.natural a b =>
    have := congrArg (fun t => digitsValue t.toList) h
    simp only [Number.render_natural, digitsValue_toDigits] at this
    rw [this]
  case negative.negative a b =>
    have ha : a < 0 := by simpa [Number.wellFormed] using hn
    have hb : b < 0 := by simpa [Number.wellFormed] using hm
    have := congrArg (fun t => digitsValue t.toList.tail) h
    simp only [Number.render_negative ha, Number.render_negative hb, List.tail_cons,
      digitsValue_toDigits] at this
    congr 1
    omega
  case double.double x y =>
    rw [Number.render_double hn, Number.render_double hm] at h
    rw [numberLayout.render_injective hn hm h]

/-- A number's text ends where its characters end. -/
theorem append_inj_of_numberChar {t t' r r' : List Char} (ht : ∀ c ∈ t, numberChar c = true)
    (ht' : ∀ c ∈ t', numberChar c = true) (hr : ∀ c ∈ r.head?, numberChar c = false)
    (hr' : ∀ c ∈ r'.head?, numberChar c = false) (h : t ++ r = t' ++ r') : t = t' ∧ r = r' := by
  have hsplit : ∀ {t r : List Char}, (∀ c ∈ t, numberChar c = true) →
      (∀ c ∈ r.head?, numberChar c = false) →
        (t ++ r).takeWhile numberChar = t ∧ (t ++ r).dropWhile numberChar = r := by
    intro t r ht hr
    rw [List.takeWhile_append_of_pos ht, List.dropWhile_append_of_pos ht]
    cases r with
    | nil => simp
    | cons c r => simp [hr c rfl]
  obtain ⟨h₁, h₂⟩ := hsplit ht hr
  obtain ⟨h₁', h₂'⟩ := hsplit ht' hr'
  rw [h] at h₁ h₂
  exact ⟨h₁.symm.trans h₁', h₂.symm.trans h₂'⟩

/-! ### The texts of arrays and objects -/

theorem renderItems_eq_map : ∀ vs : List Value, renderItems vs = vs.map Value.render
  | [] => rfl
  | v :: vs => congrArg (v.render :: ·) (renderItems_eq_map vs)

theorem renderFields_eq_map : ∀ fs : List (String × Value),
    renderFields fs = fs.map fun f => quote f.1 ++ ":" ++ f.2.render
  | [] => rfl
  | (k, v) :: fs => congrArg ((quote k ++ ":" ++ v.render) :: ·) (renderFields_eq_map fs)

theorem toList_intercalate_comma (s : String) (ss : List String) :
    (",".intercalate (s :: ss)).toList = s.toList ++ ss.flatMap fun t => ',' :: t.toList := by
  induction ss generalizing s with
  | nil => simp
  | cons t ts ih =>
    rw [String.intercalate_cons_cons, String.toList_append, String.toList_append, ih]
    simp

/-- The items of an array after the first, each after its comma. -/
def itemsText (vs : List Value) : List Char := vs.flatMap fun v => ',' :: v.render.toList

/-- A field as `"key":value`. -/
def fieldText (f : String × Value) : List Char := (quote f.1).toList ++ ':' :: f.2.render.toList

/-- The fields of an object after the first, each after its comma. -/
def fieldsText (fs : List (String × Value)) : List Char := fs.flatMap fun f => ',' :: fieldText f

theorem itemsText_cons (v : Value) (vs : List Value) :
    itemsText (v :: vs) = ',' :: (v.render.toList ++ itemsText vs) := by
  simp [itemsText]

theorem fieldsText_cons (f : String × Value) (fs : List (String × Value)) :
    fieldsText (f :: fs) = ',' :: (fieldText f ++ fieldsText fs) := by
  simp [fieldsText]

theorem render_bool (b : Bool) :
    (Value.bool b).render.toList = if b then ['t', 'r', 'u', 'e'] else ['f', 'a', 'l', 's', 'e'] := by
  cases b <;> rfl

theorem render_array_nil : (Value.array []).render.toList = ['[', ']'] := rfl

theorem render_array_cons (v : Value) (vs : List Value) :
    (Value.array (v :: vs)).render.toList = '[' :: (v.render.toList ++ itemsText vs ++ [']']) := by
  rw [show (Value.array (v :: vs)).render = "[" ++ ",".intercalate (renderItems (v :: vs)) ++ "]"
    from rfl, renderItems_eq_map, List.map_cons, String.toList_append, String.toList_append,
    toList_intercalate_comma]
  simp [itemsText, List.flatMap_map]

theorem render_object_nil : (Value.object []).render.toList = ['{', '}'] := rfl

theorem render_object_cons (k : String) (v : Value) (fs : List (String × Value)) :
    (Value.object ((k, v) :: fs)).render.toList =
      '{' :: (fieldText (k, v) ++ fieldsText fs ++ ['}']) := by
  rw [show (Value.object ((k, v) :: fs)).render =
      "\x7b" ++ ",".intercalate (renderFields ((k, v) :: fs)) ++ "\x7d" from rfl,
    renderFields_eq_map, List.map_cons, String.toList_append, String.toList_append,
    toList_intercalate_comma]
  simp [fieldText, fieldsText, List.flatMap_map, String.toList_append]

/-! ### The first character tells the kind of value -/

/-- Which constructor a value is. -/
def Value.kind : Value → Nat
  | .null => 0
  | .bool _ => 1
  | .number _ => 2
  | .string _ => 3
  | .array _ => 4
  | .object _ => 5

/-- The kind of value whose text can start with `c`, and `6` for a character no value's text
starts with. -/
def leadKind (c : Char) : Nat :=
  if c = 'n' then 0 else if c = 't' ∨ c = 'f' then 1 else if numberChar c then 2
  else if c = '"' then 3 else if c = '[' then 4 else if c = '{' then 5 else 6

theorem leadKind_of_numberChar {c : Char} (hc : numberChar c = true) : leadKind c = 2 := by
  have hn : c ≠ 'n' := by rintro rfl; exact absurd hc (by decide)
  have htf : ¬(c = 't' ∨ c = 'f') := by rintro (rfl | rfl) <;> exact absurd hc (by decide)
  rw [leadKind, if_neg hn, if_neg htf, if_pos hc]

/-- **A value's text starts with a character of its kind.** -/
theorem Value.render_cons_kind {v : Value} (hv : v.wellFormed = true) :
    ∃ c cs, v.render.toList = c :: cs ∧ leadKind c = v.kind := by
  cases v with
  | null => exact ⟨'n', ['u', 'l', 'l'], rfl, by decide⟩
  | bool b =>
    cases b
    · exact ⟨'f', ['a', 'l', 's', 'e'], rfl, by decide⟩
    · exact ⟨'t', ['r', 'u', 'e'], rfl, by decide⟩
  | number n =>
    obtain ⟨c, cs, h⟩ := List.exists_cons_of_ne_nil (Number.render_ne_nil hv)
    exact ⟨c, cs, h, leadKind_of_numberChar (Number.numberChar_of_mem_render hv c
      (h ▸ List.mem_cons_self))⟩
  | string s =>
    exact ⟨'"', _, (List.append_nil _).symm.trans (quote_toList_append s []),
      (by decide : leadKind '"' = 3)⟩
  | array items => cases items with
    | nil => exact ⟨'[', _, render_array_nil, by decide⟩
    | cons v vs => exact ⟨'[', _, render_array_cons v vs, (by decide : leadKind '[' = 4)⟩
  | object fields => cases fields with
    | nil => exact ⟨'{', _, render_object_nil, by decide⟩
    | cons f fs => exact ⟨'{', _, render_object_cons f.1 f.2 fs, (by decide : leadKind '{' = 5)⟩

theorem Value.kind_lt (v : Value) : v.kind < 6 := by
  cases v <;> simp [Value.kind]

theorem Value.kind_eq_of_append {v w : Value} {r r' : List Char} (hv : v.wellFormed = true)
    (hw : w.wellFormed = true) (h : v.render.toList ++ r = w.render.toList ++ r') :
    v.kind = w.kind := by
  obtain ⟨c, cs, hc, hk⟩ := Value.render_cons_kind hv
  obtain ⟨c', cs', hc', hk'⟩ := Value.render_cons_kind hw
  rw [hc, hc', List.cons_append, List.cons_append, List.cons.injEq] at h
  rw [← hk, ← hk', h.1]

/-- No value's text starts with a character that starts none. -/
theorem Value.render_append_ne {v : Value} (hv : v.wellFormed = true) {c : Char}
    (hc : leadKind c = 6) (x y : List Char) : v.render.toList ++ x ≠ c :: y := by
  obtain ⟨c', cs, h, hk⟩ := Value.render_cons_kind hv
  rw [h, List.cons_append]
  intro he
  have hlt := v.kind_lt
  rw [← hk, (List.cons.inj he).1, hc] at hlt
  omega

/-! ### Unique readability -/

/-- What may follow a value in compact JSON text: nothing, a comma, or the end of an array or
an object. -/
def Follows (r : List Char) : Prop := ∀ c ∈ r.head?, c = ',' ∨ c = ']' ∨ c = '}'

theorem Follows.not_numberChar {r : List Char} (h : Follows r) :
    ∀ c ∈ r.head?, numberChar c = false := by
  intro c hc
  rcases h c hc with rfl | rfl | rfl <;> decide

theorem follows_itemsText (vs : List Value) (r : List Char) : Follows (itemsText vs ++ ']' :: r) := by
  cases vs <;> simp [Follows, itemsText]

theorem follows_fieldsText (fs : List (String × Value)) (r : List Char) :
    Follows (fieldsText fs ++ '}' :: r) := by
  cases fs <;> simp [Follows, fieldsText]

theorem wellFormed_array_cons {v : Value} {vs : List Value}
    (h : (Value.array (v :: vs)).wellFormed = true) :
    v.wellFormed = true ∧ itemsWellFormed vs = true := by
  simpa [Value.wellFormed, itemsWellFormed] using h

theorem wellFormed_object_cons {k : String} {v : Value} {fs : List (String × Value)}
    (h : (Value.object ((k, v) :: fs)).wellFormed = true) :
    v.wellFormed = true ∧ fieldsWellFormed fs = true := by
  simp only [Value.wellFormed, fieldsWellFormed, Bool.and_eq_true] at h
  exact h.2

/-- A field `"key":value` determines the key, and the value as far as the value's text
determines it. -/
theorem fieldText_append_inj {k k' : String} {u u' : Value} {r r' : List Char}
    (hu : ∀ x x', Follows x → Follows x' → u.render.toList ++ x = u'.render.toList ++ x' →
      u = u' ∧ x = x')
    (hr : Follows r) (hr' : Follows r') (h : fieldText (k, u) ++ r = fieldText (k', u') ++ r') :
    (k, u) = (k', u') ∧ r = r' := by
  rw [fieldText, fieldText, List.append_assoc, List.append_assoc] at h
  obtain ⟨rfl, h⟩ := quote_append_inj h
  rw [List.cons_append, List.cons_append, List.cons.injEq] at h
  obtain ⟨rfl, rfl⟩ := hu r r' hr hr' h.2
  exact ⟨rfl, rfl⟩

mutual

/-- **Unique readability of compact JSON text**: the text of a well-formed value, followed by
anything that may follow a value, determines the value and what follows it. By induction on
the value, with the items and fields of arrays and objects read one after the other. -/
theorem Value.render_append_inj : ∀ (v w : Value) (r r' : List Char), v.wellFormed = true →
    w.wellFormed = true → Follows r → Follows r' →
      v.render.toList ++ r = w.render.toList ++ r' → v = w ∧ r = r'
  | .null => by
    intro w r r' hv hw _ _ h
    -- the texts start alike, so `w` is of the same kind: `cases hk` leaves only that case
    have hk := Value.kind_eq_of_append hv hw h
    cases w <;> cases hk
    exact ⟨rfl, List.append_cancel_left h⟩
  | .bool b => by
    intro w r r' hv hw _ _ h
    have hk := Value.kind_eq_of_append hv hw h
    cases w <;> cases hk
    case bool b' =>
      rw [render_bool, render_bool] at h
      cases b <;> cases b' <;> simp at h <;> exact ⟨rfl, h⟩
  | .number n => by
    intro w r r' hv hw hr hr' h
    have hk := Value.kind_eq_of_append hv hw h
    cases w <;> cases hk
    case number m =>
      -- a number ends where its characters end, and its text determines it
      obtain ⟨ht, rfl⟩ := append_inj_of_numberChar (Number.numberChar_of_mem_render hv)
        (Number.numberChar_of_mem_render hw) hr.not_numberChar hr'.not_numberChar h
      exact ⟨congrArg Value.number (Number.render_injective hv hw (String.toList_inj.1 ht)), rfl⟩
  | .string s => by
    intro w r r' hv hw _ _ h
    have hk := Value.kind_eq_of_append hv hw h
    cases w <;> cases hk
    case string t =>
      obtain ⟨rfl, rfl⟩ := quote_append_inj h
      exact ⟨rfl, rfl⟩
  | .array [] => by
    intro w r r' hv hw _ _ h
    have hk := Value.kind_eq_of_append hv hw h
    cases w <;> cases hk
    case array items =>
      cases items with
      | nil => exact ⟨rfl, by simpa [render_array_nil] using h⟩
      | cons u us =>
        -- a closing bracket starts no value's text
        rw [render_array_nil, render_array_cons] at h
        simp only [List.cons_append, List.nil_append, List.cons.injEq, List.append_assoc,
          true_and] at h
        exact absurd h.symm (Value.render_append_ne (wellFormed_array_cons hw).1 (by decide) _ _)
  | .array (u :: us) => by
    intro w r r' hv hw _ _ h
    have hk := Value.kind_eq_of_append hv hw h
    cases w <;> cases hk
    case array items =>
      cases items with
      | nil =>
        rw [render_array_nil, render_array_cons] at h
        simp only [List.cons_append, List.nil_append, List.cons.injEq, List.append_assoc,
          true_and] at h
        exact absurd h (Value.render_append_ne (wellFormed_array_cons hv).1 (by decide) _ _)
      | cons u' us' =>
        -- the first items, then the rest up to the closing bracket
        have hu := wellFormed_array_cons hv
        have hu' := wellFormed_array_cons hw
        rw [render_array_cons, render_array_cons, List.cons_append, List.cons_append,
          List.cons.injEq, List.append_assoc, List.append_assoc, List.append_assoc,
          List.append_assoc, List.singleton_append, List.singleton_append] at h
        obtain ⟨rfl, ht⟩ := Value.render_append_inj u u' _ _ hu.1 hu'.1 (follows_itemsText us r)
          (follows_itemsText us' r') h.2
        obtain ⟨rfl, rfl⟩ := itemsText_append_inj us us' r r' hu.2 hu'.2 ht
        exact ⟨rfl, rfl⟩
  | .object [] => by
    intro w r r' hv hw _ _ h
    have hk := Value.kind_eq_of_append hv hw h
    cases w <;> cases hk
    case object fields =>
      cases fields with
      | nil => exact ⟨rfl, by simpa [render_object_nil] using h⟩
      | cons f fs =>
        -- a closing brace is not the quote a key starts with
        rw [render_object_nil, render_object_cons, fieldText, quote_toList_append] at h
        simp at h
  | .object ((k, u) :: fs) => by
    intro w r r' hv hw _ _ h
    have hk := Value.kind_eq_of_append hv hw h
    cases w <;> cases hk
    case object fields =>
      cases fields with
      | nil =>
        rw [render_object_nil, render_object_cons, fieldText, quote_toList_append] at h
        simp at h
      | cons f gs =>
        obtain ⟨k', u'⟩ := f
        have hu := wellFormed_object_cons hv
        have hu' := wellFormed_object_cons hw
        rw [render_object_cons, render_object_cons, List.cons_append, List.cons_append,
          List.cons.injEq, List.append_assoc, List.append_assoc, List.append_assoc,
          List.append_assoc, List.singleton_append, List.singleton_append] at h
        obtain ⟨hf, ht⟩ := fieldText_append_inj
          (fun x x' hx hx' => Value.render_append_inj u u' x x' hu.1 hu'.1 hx hx')
          (follows_fieldsText fs r) (follows_fieldsText gs r') h.2
        obtain ⟨rfl, rfl⟩ := fieldsText_append_inj fs gs r r' hu.2 hu'.2 ht
        exact ⟨by rw [hf], rfl⟩

/-- The items after the first, up to the closing bracket, determine the items and what follows
the bracket. -/
theorem itemsText_append_inj : ∀ (vs ws : List Value) (r r' : List Char),
    itemsWellFormed vs = true → itemsWellFormed ws = true →
      itemsText vs ++ ']' :: r = itemsText ws ++ ']' :: r' → vs = ws ∧ r = r'
  | [] => by
    intro ws r r' _ _ h
    cases ws with
    | nil => exact ⟨rfl, by simpa [itemsText] using h⟩
    | cons u us => simp [itemsText] at h
  | u :: us => by
    intro ws r r' hv hw h
    cases ws with
    | nil => simp [itemsText] at h
    | cons u' us' =>
      simp only [itemsWellFormed, Bool.and_eq_true] at hv hw
      rw [itemsText_cons, itemsText_cons, List.cons_append, List.cons_append, List.cons.injEq,
        List.append_assoc, List.append_assoc] at h
      obtain ⟨rfl, ht⟩ := Value.render_append_inj u u' _ _ hv.1 hw.1 (follows_itemsText us r)
        (follows_itemsText us' r') h.2
      obtain ⟨rfl, rfl⟩ := itemsText_append_inj us us' r r' hv.2 hw.2 ht
      exact ⟨rfl, rfl⟩

/-- The fields after the first, up to the closing brace, determine the fields and what follows
the brace. -/
theorem fieldsText_append_inj : ∀ (fs gs : List (String × Value)) (r r' : List Char),
    fieldsWellFormed fs = true → fieldsWellFormed gs = true →
      fieldsText fs ++ '}' :: r = fieldsText gs ++ '}' :: r' → fs = gs ∧ r = r'
  | [] => by
    intro gs r r' _ _ h
    cases gs with
    | nil => exact ⟨rfl, by simpa [fieldsText] using h⟩
    | cons g gs => simp [fieldsText] at h
  | (k, u) :: fs => by
    intro gs r r' hv hw h
    cases gs with
    | nil => simp [fieldsText] at h
    | cons g gs =>
      obtain ⟨k', u'⟩ := g
      simp only [fieldsWellFormed, Bool.and_eq_true] at hv hw
      rw [fieldsText_cons, fieldsText_cons, List.cons_append, List.cons_append, List.cons.injEq,
        List.append_assoc, List.append_assoc] at h
      obtain ⟨hf, ht⟩ := fieldText_append_inj
        (fun x x' hx hx' => Value.render_append_inj u u' x x' hv.1 hw.1 hx hx')
        (follows_fieldsText fs r) (follows_fieldsText gs r') h.2
      obtain ⟨rfl, rfl⟩ := fieldsText_append_inj fs gs r r' hv.2 hw.2 ht
      exact ⟨by rw [hf], rfl⟩

end

/-- **Compact JSON text is injective on well-formed values.** -/
theorem Value.render_injective {v w : Value} (hv : v.wellFormed = true)
    (hw : w.wellFormed = true) (h : v.render = w.render) : v = w := by
  have hnil : Follows [] := by simp [Follows]
  exact (Value.render_append_inj v w [] [] hv hw hnil hnil (by rw [h])).1

/-! ### Canonical text is compact text of the sorted value -/

mutual

/-- **The value with the fields of every object sorted by key**, in the order canonical text
writes them; fields of one key keep their order. -/
def Value.sortDeep : Value → Value
  | .array items => .array (sortItems items)
  | .object fields => .object ((sortFields fields).mergeSort fun a b => a.1 ≤ b.1)
  | v => v

/-- The items, each sorted. -/
def sortItems : List Value → List Value
  | [] => []
  | v :: vs => v.sortDeep :: sortItems vs

/-- The fields, each value sorted. -/
def sortFields : List (String × Value) → List (String × Value)
  | [] => []
  | (k, v) :: fs => (k, v.sortDeep) :: sortFields fs

end

mutual

/-- **Canonical text is the compact text of the sorted value.** -/
theorem Value.canonical_eq_render_sortDeep : ∀ v : Value, v.canonical = v.sortDeep.render
  | .null => rfl
  | .bool _ => rfl
  | .number _ => rfl
  | .string _ => rfl
  | .array items => by
    show "[" ++ ",".intercalate (canonicalItems items) ++ "]" =
      "[" ++ ",".intercalate (renderItems (sortItems items)) ++ "]"
    rw [canonicalItems_eq_renderItems items]
  | .object fields => by
    show "\x7b" ++ ",".intercalate (((canonicalFields fields).mergeSort fun a b => a.1 ≤ b.1).map
        (·.2)) ++ "\x7d" =
      "\x7b" ++ ",".intercalate (renderFields ((sortFields fields).mergeSort fun a b => a.1 ≤ b.1))
        ++ "\x7d"
    -- writing a field keeps its key, so sorting before or after writing is the same
    have hsort : ((sortFields fields).map fun f => (f.1, quote f.1 ++ ":" ++ f.2.render)).mergeSort
          (fun a b => a.1 ≤ b.1) =
        ((sortFields fields).mergeSort fun a b => a.1 ≤ b.1).map
          fun f => (f.1, quote f.1 ++ ":" ++ f.2.render) :=
      (List.map_mergeSort (by intros; rfl)).symm
    rw [canonicalFields_eq_map fields, hsort, List.map_map, renderFields_eq_map]
    rfl

theorem canonicalItems_eq_renderItems : ∀ vs : List Value,
    canonicalItems vs = renderItems (sortItems vs)
  | [] => rfl
  | v :: vs => by
    show v.canonical :: canonicalItems vs = v.sortDeep.render :: renderItems (sortItems vs)
    rw [Value.canonical_eq_render_sortDeep v, canonicalItems_eq_renderItems vs]

theorem canonicalFields_eq_map : ∀ fs : List (String × Value),
    canonicalFields fs = (sortFields fs).map fun f => (f.1, quote f.1 ++ ":" ++ f.2.render)
  | [] => rfl
  | (k, v) :: fs => by
    show (k, quote k ++ ":" ++ v.canonical) :: canonicalFields fs =
      (k, quote k ++ ":" ++ v.sortDeep.render) ::
        (sortFields fs).map fun f => (f.1, quote f.1 ++ ":" ++ f.2.render)
    rw [Value.canonical_eq_render_sortDeep v, canonicalFields_eq_map fs]

end

theorem pairwise_le_of_keysAscending {fields : List (String × Value)}
    (h : keysAscending fields = true) :
    fields.Pairwise fun a b => decide (a.1 ≤ b.1) = true := by
  have hlt : (fields.map Prod.fst).Pairwise (· < ·) := of_decide_eq_true h
  rw [List.pairwise_map] at hlt
  exact hlt.imp fun hab => decide_eq_true (Std.le_of_lt hab)

mutual

/-- **A well-formed value is its own sorted form**: its objects are sorted already. -/
theorem Value.sortDeep_of_wellFormed : ∀ v : Value, v.wellFormed = true → v.sortDeep = v
  | .null, _ => rfl
  | .bool _, _ => rfl
  | .number _, _ => rfl
  | .string _, _ => rfl
  | .array items, h => by
    show Value.array (sortItems items) = _
    rw [sortItems_of_wellFormed items h]
  | .object fields, h => by
    simp only [Value.wellFormed, Bool.and_eq_true] at h
    show Value.object ((sortFields fields).mergeSort fun a b => a.1 ≤ b.1) = _
    rw [sortFields_of_wellFormed fields h.2,
      List.mergeSort_of_pairwise (pairwise_le_of_keysAscending h.1)]

theorem sortItems_of_wellFormed : ∀ vs : List Value, itemsWellFormed vs = true →
    sortItems vs = vs
  | [], _ => rfl
  | v :: vs, h => by
    simp only [itemsWellFormed, Bool.and_eq_true] at h
    show v.sortDeep :: sortItems vs = v :: vs
    rw [Value.sortDeep_of_wellFormed v h.1, sortItems_of_wellFormed vs h.2]

theorem sortFields_of_wellFormed : ∀ fs : List (String × Value), fieldsWellFormed fs = true →
    sortFields fs = fs
  | [], _ => rfl
  | (k, v) :: fs, h => by
    simp only [fieldsWellFormed, Bool.and_eq_true] at h
    show (k, v.sortDeep) :: sortFields fs = (k, v) :: fs
    rw [Value.sortDeep_of_wellFormed v h.1, sortFields_of_wellFormed fs h.2]

end

/-- The canonical text of a well-formed value is its compact text. -/
theorem Value.canonical_of_wellFormed {v : Value} (hv : v.wellFormed = true) :
    v.canonical = v.render := by
  rw [Value.canonical_eq_render_sortDeep, Value.sortDeep_of_wellFormed v hv]

/-- **Canonical JSON text is injective on well-formed values.** -/
theorem Value.canonical_injective {v w : Value} (hv : v.wellFormed = true)
    (hw : w.wellFormed = true) (h : v.canonical = w.canonical) : v = w := by
  rw [Value.canonical_of_wellFormed hv, Value.canonical_of_wellFormed hw] at h
  exact Value.render_injective hv hw h

end RoutePlanner.Json
