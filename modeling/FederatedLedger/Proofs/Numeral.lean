import FederatedLedger.Json.Parser
import FederatedLedger.Json.Printer
import FederatedLedger.Proofs.Shortest
import FederatedLedger.Text.Split

/-!
# Numbers written and read

A finite number is printed as a literal, `Number.literal`, and the reader takes the text of a literal off the front of
a longer text (`Literal.number?_chars`) if what follows cannot continue a number. The literal tells the number
(`literal_inj`): an integer has neither point nor exponent, and a double is told by the decimal that is written. So
the text of a number says which number it is and where it ends (`Number.chars_append_inj`).
-/

namespace FederatedLedger

/-- The text does not continue a number. -/
def EndsNumber (r : List Char) : Prop := ∀ c ∈ r.head?, c.isDigit = false ∧ c ≠ '.' ∧ c ≠ 'e' ∧ c ≠ 'E'

namespace Literal

/-- The characters of an exponent; its sign is always written. -/
def exponentChars : Option Int → List Char
  | none => []
  | some e => 'e' :: (if e < 0 then '-' else '+') :: Nat.toDigits 10 e.natAbs

/-- The characters of a fraction. -/
def fractionChars : List Char → List Char
  | [] => []
  | ds => '.' :: ds

/-- The characters of a literal. -/
def chars (l : Literal) : List Char :=
  (if l.negative then ['-'] else []) ++ (l.whole ++ (fractionChars l.fraction ++ exponentChars l.exponent))

/-- The digits are digits, and the whole part is not empty and has no zero in front. -/
structure WellFormed (l : Literal) : Prop where
  whole_ne : l.whole ≠ []
  whole : ∀ c ∈ l.whole, c.isDigit = true
  leading : l.whole.head? = some '0' → l.whole = ['0']
  fraction : ∀ c ∈ l.fraction, c.isDigit = true

/-! ## Reading -/

theorem digits_append {ds r : List Char} (hds : ∀ c ∈ ds, c.isDigit = true) (hr : ∀ c ∈ r.head?, c.isDigit = false) :
    Document.digits (ds ++ r) = (ds, r) := by
  rw [Document.digits, takeWhile_append_of_head hds hr, dropWhile_append_of_head hds hr]

theorem decimalValue_eq (ds : List Char) : Document.decimalValue ds = Nat.ofDigitChars 10 ds 0 :=
  Nat.ofDigitChars_eq_foldl.symm

theorem whole?_append {l : Literal} (hl : l.WellFormed) {r : List Char} (hr : ∀ c ∈ r.head?, c.isDigit = false) :
    Document.whole? (l.whole ++ r) = some (l.whole, r) := by
  have hdigits := digits_append hl.whole hr
  unfold Document.whole?
  split
  · rename_i r' heq
    cases hw : l.whole with
    | nil => exact absurd hw hl.whole_ne
    | cons c cs =>
      rw [hw, List.cons_append] at heq
      obtain ⟨rfl, rfl⟩ := List.cons.inj heq
      obtain rfl : cs = [] := by simpa [hw] using hl.leading
      have hhead : r.head?.any Char.isDigit = false := by
        cases r with
        | nil => rfl
        | cons c r => simpa using hr c rfl
      simp [hhead]
  · rw [hdigits]
    split
    · rename_i h
      exact absurd (congrArg Prod.fst h) hl.whole_ne
    · rfl

theorem fraction?_append {ds r : List Char} (hds : ∀ c ∈ ds, c.isDigit = true)
    (hr : ∀ c ∈ r.head?, c.isDigit = false ∧ c ≠ '.') :
    Document.fraction? (fractionChars ds ++ r) = some (ds, r) := by
  cases ds with
  | nil =>
    cases r with
    | nil => rfl
    | cons c r =>
      have := (hr c rfl).2
      simp only [fractionChars, List.nil_append]
      unfold Document.fraction?
      split
      · rename_i heq
        exact absurd (List.cons.inj heq).1 this
      · rfl
  | cons d ds =>
    have := digits_append hds fun c hc => (hr c hc).1
    simp only [fractionChars, List.cons_append, Document.fraction?]
    rw [← List.cons_append, this]

theorem exponent?_append (e : Option Int) {r : List Char} (hr : EndsNumber r) :
    Document.exponent? (exponentChars e ++ r) = some (e, r) := by
  cases e with
  | none =>
    cases r with
    | nil => rfl
    | cons c r =>
      obtain ⟨-, -, h, h'⟩ := hr c rfl
      simp [exponentChars, Document.exponent?, h, h']
  | some e =>
    have hds : ∀ c ∈ Nat.toDigits 10 e.natAbs, c.isDigit = true := fun c hc =>
      Nat.isDigit_of_mem_toDigits (by decide) (by decide) hc
    have hdigits := digits_append hds fun c hc => (hr c hc).1
    have hvalue : Document.decimalValue (Nat.toDigits 10 e.natAbs) = e.natAbs := by
      rw [decimalValue_eq, Nat.ofDigitChars_ten_toDigits]
    have hne : Nat.toDigits 10 e.natAbs ≠ [] := Nat.toDigits_ne_nil
    rw [exponentChars]
    generalize Nat.toDigits 10 e.natAbs = ds at hdigits hvalue hne ⊢
    cases ds with
    | nil => exact absurd rfl hne
    | cons d ds =>
      by_cases he : e < 0
      · simp only [he, if_true, List.cons_append, Document.exponent?, true_or]
        rw [← List.cons_append, hdigits]
        simp only [hvalue]
        rw [show -(e.natAbs : Int) = e by omega]
      · simp only [he, if_false, List.cons_append, Document.exponent?, true_or, if_true]
        rw [← List.cons_append, hdigits]
        simp only [hvalue, Bool.false_eq_true, if_false]
        rw [show (e.natAbs : Int) = e by omega]

theorem endsNumber_of_exponent (e : Option Int) {r : List Char} (hr : EndsNumber r) :
    ∀ c ∈ (exponentChars e ++ r).head?, c.isDigit = false ∧ c ≠ '.' := by
  intro c hc
  cases e with
  | none => exact ⟨(hr c hc).1, (hr c hc).2.1⟩
  | some e => cases hc; decide

/-- The parts of a number after its sign. -/
theorem number?_of_parts {negative : Bool} {whole fraction : List Char} {exponent : Option Int} {w f r : List Char}
    (hw : Document.whole? w = some (whole, f)) (hsign : negative = false → ∀ cs, w ≠ '-' :: cs) {e : List Char}
    (hf : Document.fraction? f = some (fraction, e)) (he : Document.exponent? e = some (exponent, r)) :
    Document.number? ((if negative then ['-'] else []) ++ w) = some (⟨negative, whole, fraction, exponent⟩, r) := by
  unfold Document.number?
  cases negative with
  | true => simp [hw, hf, he]
  | false =>
    simp only [Bool.false_eq_true, if_false, List.nil_append]
    split
    · exact absurd rfl (hsign rfl _)
    · simp [hw, hf, he]

/-- **A spelled literal reads back**, and the reader stops where it ends. -/
theorem number?_chars {l : Literal} (hl : l.WellFormed) {r : List Char} (hr : EndsNumber r) :
    Document.number? (l.chars ++ r) = some (l, r) := by
  have htail := endsNumber_of_exponent l.exponent hr
  rw [chars, List.append_assoc, List.append_assoc, List.append_assoc]
  refine number?_of_parts (whole?_append hl fun c hc => ?_) (fun _ cs hcs => ?_) (fraction?_append hl.fraction htail)
    (exponent?_append l.exponent hr)
  · cases hf : l.fraction with
    | nil => rw [hf] at hc; exact (htail c hc).1
    | cons d ds => rw [hf] at hc; cases hc; decide
  · cases hw : l.whole with
    | nil => exact hl.whole_ne hw
    | cons c cs' =>
      rw [hw, List.cons_append] at hcs
      have hminus := hl.whole '-' (by rw [hw, (List.cons.inj hcs).1]; exact List.mem_cons_self)
      exact absurd hminus (by decide)

/-! ## The number that a literal spells -/

/-- The absolute value of the number that the digits spell. -/
def amount (l : Literal) : ℚ :=
  Nat.ofDigitChars 10 (l.whole ++ l.fraction) 0 * 10 ^ (l.exponent.getD 0 - l.fraction.length)

end Literal

/-! ## Writing -/

/-- No zero stands in front of the digits of a number. -/
theorem toDigits_ne_zero_cons {n : Nat} (h : n ≠ 0) (r : List Char) : Nat.toDigits 10 n ≠ '0' :: r := by
  induction n using Nat.strongRecOn generalizing r with
  | ind n ih =>
    by_cases hn : n < 10
    · rw [Nat.toDigits_of_lt_base hn]
      intro heq
      have : ∀ n < 10, n.digitChar = '0' → n = 0 := by decide
      exact h (this n hn (List.cons.inj heq).1)
    · rw [Nat.toDigits_of_base_le (by decide) (Nat.le_of_not_lt hn)]
      have hquot := ih (n / 10) (by omega) (by omega)
      cases hds : Nat.toDigits 10 (n / 10) with
      | nil => exact absurd hds Nat.toDigits_ne_nil
      | cons c cs =>
        rw [List.cons_append]
        intro heq
        exact hquot cs (by rw [hds, (List.cons.inj heq).1])

namespace Decimal

/-- The literal in positional notation, with a point also after a whole number. -/
def positionalLiteral (negative : Bool) (d : Decimal) : Literal :=
  let n := d.pointPosition
  if n ≤ 0 then ⟨negative, ['0'], List.replicate (-n).toNat '0' ++ d.text, none⟩
  else if d.text.length ≤ n.toNat then ⟨negative, d.text ++ List.replicate (n.toNat - d.text.length) '0', ['0'], none⟩
  else ⟨negative, d.text.take n.toNat, d.text.drop n.toNat, none⟩

/-- The literal in scientific notation. -/
def scientificLiteral (negative : Bool) (d : Decimal) : Literal :=
  ⟨negative, d.text.take 1, d.text.drop 1, some (d.pointPosition - 1)⟩

variable {d : Decimal} {negative : Bool}

theorem text_ne_nil : d.text ≠ [] := Nat.toDigits_ne_nil

theorem isDigit_of_mem_text : ∀ c ∈ d.text, c.isDigit = true := fun _ hc =>
  Nat.isDigit_of_mem_toDigits (by decide) (by decide) hc

theorem head_text (h : d.digits ≠ 0) : d.text.head? ≠ some '0' := by
  intro hhead
  obtain ⟨r, hr⟩ := List.head?_eq_some_iff.1 hhead
  exact toDigits_ne_zero_cons h r hr

theorem ofDigitChars_text : Nat.ofDigitChars 10 d.text 0 = d.digits := Nat.ofDigitChars_ten_toDigits

/-- What the place of the point says of the digits and of the exponent. -/
theorem pointPosition_cases (d : Decimal) :
    (d.pointPosition ≤ 0 ∧ d.exponent < 0 ∧
      -((-d.pointPosition).toNat + d.text.length : Nat) = d.exponent) ∨
    (0 < d.pointPosition ∧ d.text.length ≤ d.pointPosition.toNat ∧ 0 ≤ d.exponent ∧
      ((d.pointPosition.toNat - d.text.length : Nat) : Int) = d.exponent) ∨
    (0 < d.pointPosition ∧ d.pointPosition.toNat < d.text.length ∧ d.exponent < 0 ∧
      -((d.text.length - d.pointPosition.toNat : Nat) : Int) = d.exponent) := by
  have hlen : 0 < d.text.length := List.length_pos_iff.2 text_ne_nil
  unfold pointPosition
  omega

theorem chars_positionalLiteral : (d.positionalLiteral negative).chars =
    (if negative then ['-'] else []) ++ (d.positional ++ (if 0 ≤ d.exponent then ['.', '0'] else [])) := by
  unfold positionalLiteral positional
  rcases d.pointPosition_cases with ⟨hn, he, -⟩ | ⟨hn, hlen, he, -⟩ | ⟨hn, hlen, he, -⟩
  · simp only [hn, if_true, if_neg (Int.not_le.2 he), Literal.chars, Literal.exponentChars]
    cases hf : List.replicate (-d.pointPosition).toNat '0' ++ d.text with
    | nil => exact absurd (List.append_eq_nil_iff.1 hf).2 text_ne_nil
    | cons c cs => simp [Literal.fractionChars]
  · simp only [if_neg (Int.not_le.2 hn), hlen, if_true, he, Literal.chars, Literal.exponentChars]
    simp [Literal.fractionChars]
  · simp only [if_neg (Int.not_le.2 hn), if_neg (Nat.not_le.2 hlen), if_neg (Int.not_le.2 he), Literal.chars,
      Literal.exponentChars]
    cases hf : d.text.drop d.pointPosition.toNat with
    | nil => exact absurd (List.drop_eq_nil_iff.1 hf) (Nat.not_le.2 hlen)
    | cons c cs => simp [Literal.fractionChars]

theorem wellFormed_positionalLiteral (hd : d.digits ≠ 0) : (d.positionalLiteral negative).WellFormed := by
  have hzero : '0'.isDigit = true := by decide
  have hzeros (k : Nat) : ∀ c ∈ List.replicate k '0', c.isDigit = true := fun c hc => by
    rw [(List.mem_replicate.1 hc).2]; exact hzero
  unfold positionalLiteral
  rcases d.pointPosition_cases with ⟨hn, -⟩ | ⟨hn, hlen, -⟩ | ⟨hn, hlen, -⟩
  · simp only [hn, if_true]
    refine ⟨List.cons_ne_nil _ _, List.forall_mem_singleton.2 hzero, fun _ => rfl, ?_⟩
    exact List.forall_mem_append.2 ⟨hzeros _, isDigit_of_mem_text⟩
  · simp only [if_neg (Int.not_le.2 hn), hlen, if_true]
    refine ⟨by simp [text_ne_nil], List.forall_mem_append.2 ⟨isDigit_of_mem_text, hzeros _⟩, fun h => ?_,
      List.forall_mem_singleton.2 hzero⟩
    rw [List.head?_append_of_ne_nil _ text_ne_nil] at h
    exact absurd h (head_text hd)
  · simp only [if_neg (Int.not_le.2 hn), if_neg (Nat.not_le.2 hlen)]
    have htake : d.pointPosition.toNat ≠ 0 := by omega
    refine ⟨by simp [htake, text_ne_nil], fun c hc => isDigit_of_mem_text c (List.mem_of_mem_take hc), fun h => ?_,
      fun c hc => isDigit_of_mem_text c (List.mem_of_mem_drop hc)⟩
    rw [List.head?_take, if_neg htake] at h
    exact absurd h (head_text hd)

theorem positionalLiteral_parts (negative : Bool) (d : Decimal) :
    (d.positionalLiteral negative).negative = negative ∧ (d.positionalLiteral negative).fraction ≠ [] := by
  unfold positionalLiteral
  rcases d.pointPosition_cases with ⟨hn, -⟩ | ⟨hn, hlen, -⟩ | ⟨hn, hlen, -⟩
  · simp [hn, text_ne_nil]
  · simp [Int.not_le.2 hn, hlen]
  · simp [Int.not_le.2 hn, Nat.not_le.2 hlen]

theorem amount_positionalLiteral : (d.positionalLiteral negative).amount = d.amount := by
  unfold positionalLiteral amount
  rcases d.pointPosition_cases with ⟨hn, -, he⟩ | ⟨hn, hlen, -, he⟩ | ⟨hn, hlen, -, he⟩
  · simp only [hn, if_true, Literal.amount]
    have hvalue (k : Nat) : Nat.ofDigitChars 10 (['0'] ++ (List.replicate k '0' ++ d.text)) 0 = d.digits := by
      rw [Nat.ofDigitChars_append, Nat.ofDigitChars_append, ← ofDigitChars_text]
      simp [Nat.ofDigitChars_cons]
    rw [hvalue, ← he]
    simp
  · simp only [if_neg (Int.not_le.2 hn), hlen, if_true, Literal.amount]
    have hvalue (k : Nat) : Nat.ofDigitChars 10 (d.text ++ List.replicate k '0' ++ ['0']) 0 = 10 ^ k * d.digits * 10 := by
      rw [Nat.ofDigitChars_append, Nat.ofDigitChars_append, ofDigitChars_text]
      simp [Nat.ofDigitChars_cons, Nat.mul_comm]
    rw [hvalue, ← he]
    simp; ring
  · simp only [if_neg (Int.not_le.2 hn), if_neg (Nat.not_le.2 hlen), Literal.amount, List.take_append_drop,
      ofDigitChars_text, List.length_drop]
    rw [← he]; simp

theorem chars_scientificLiteral :
    (d.scientificLiteral negative).chars = (if negative then ['-'] else []) ++ d.scientific := by
  unfold scientificLiteral scientific
  cases ht : d.text with
  | nil => exact absurd ht text_ne_nil
  | cons c r =>
    cases r with
    | nil => simp [Literal.chars, Literal.fractionChars, Literal.exponentChars]
    | cons c' r => simp [Literal.chars, Literal.fractionChars, Literal.exponentChars]

theorem wellFormed_scientificLiteral (hd : d.digits ≠ 0) : (d.scientificLiteral negative).WellFormed := by
  refine ⟨by simp [scientificLiteral, text_ne_nil], fun c hc => isDigit_of_mem_text c (List.mem_of_mem_take hc),
    fun h => ?_, fun c hc => isDigit_of_mem_text c (List.mem_of_mem_drop hc)⟩
  rw [scientificLiteral, List.head?_take, if_neg Nat.one_ne_zero] at h
  exact absurd h (head_text hd)

theorem amount_scientificLiteral : (d.scientificLiteral negative).amount = d.amount := by
  have hlen : 0 < d.text.length := List.length_pos_iff.2 text_ne_nil
  simp only [scientificLiteral, Literal.amount, List.take_append_drop, ofDigitChars_text, List.length_drop,
    Option.getD_some, amount, pointPosition]
  congr 2
  omega

end Decimal

namespace Number

/-- Whether the number has a text of its own in JSON. -/
def isFinite : Number → Bool
  | .int _ => true
  | .float x => x.isFinite

/-- The literal of a number. -/
def literal : Number → Literal
  | .int n => ⟨n < 0, Nat.toDigits 10 n.natAbs, [], none⟩
  | .float x =>
    if x.magnitude = 0 then ⟨x.negative, ['0'], ['0'], none⟩
    else
      let d := Binary64.decimal x.magnitude
      if Json.floatLayout.isPositional (d.pointPosition - 1) then d.positionalLiteral x.negative
      else d.scientificLiteral x.negative

/-- Rendering by the magnitude. -/
theorem render_eq {x : Binary64} (h : x.isFinite = true) (l : Layout) : l.render x =
    (if x.negative then ['-'] else []) ++
      (if x.magnitude = 0 then (if l.keepsPoint then ['0', '.', '0'] else ['0'])
      else
        let d := Binary64.decimal x.magnitude
        if l.isPositional (d.pointPosition - 1) then
          d.positional ++ (if l.keepsPoint && 0 ≤ d.exponent then ['.', '0'] else [])
        else d.scientific) := by
  have hzero := (Binary64.parts_bounds (of_decide_eq_true h)).2.2.2.1
  rw [Layout.render, Binary64.decode?_of_finite h]
  by_cases hM : x.magnitude = 0
  · have hparts : Binary64.parts x.magnitude = (0, -1074) := by rw [hM]; rfl
    rw [if_pos hM, hparts]; rfl
  · rw [if_neg hM, Binary64.decimal]
    obtain ⟨m, e, hparts⟩ : ∃ m e, Binary64.parts x.magnitude = (m + 1, e) := by
      obtain ⟨m, hm⟩ := Nat.exists_eq_succ_of_ne_zero fun h => hM (hzero.1 h)
      exact ⟨m, _, Prod.ext hm rfl⟩
    rw [hparts]
    split
    · rename_i heq; cases heq
    · rename_i heq; cases heq
    · rename_i heq
      cases heq
      dsimp only
      by_cases hp : l.isPositional ((Decimal.shortest (m + 1) e).pointPosition - 1) = true
      · rw [if_pos hp, if_pos hp, List.append_assoc]
      · rw [if_neg hp, if_neg hp]

/-- The text of a finite number is that of its literal. -/
theorem chars_literal {n : Number} (h : n.isFinite = true) : n.literal.chars = n.chars := by
  cases n with
  | int n =>
    simp only [literal, Literal.chars, chars, intChars, Literal.fractionChars, Literal.exponentChars, List.append_nil]
    by_cases hn : n < 0 <;> simp [hn]
  | float x =>
    have hfinite : x.isFinite = true := h
    rw [chars, if_pos hfinite, render_eq hfinite, literal]
    by_cases hM : x.magnitude = 0
    · rw [if_pos hM, if_pos hM]; rfl
    · rw [if_neg hM, if_neg hM]
      dsimp only
      by_cases hp : Json.floatLayout.isPositional ((Binary64.decimal x.magnitude).pointPosition - 1) = true
      · rw [if_pos hp, if_pos hp, Decimal.chars_positionalLiteral]
        simp [Json.floatLayout]
      · rw [if_neg hp, if_neg hp, Decimal.chars_scientificLiteral]

theorem wellFormed_literal {n : Number} (h : n.isFinite = true) : n.literal.WellFormed := by
  have hzero : '0'.isDigit = true := by decide
  cases n with
  | int n =>
    refine ⟨Nat.toDigits_ne_nil, fun c hc => Nat.isDigit_of_mem_toDigits (by decide) (by decide) hc, fun hhead => ?_,
      fun c hc => nomatch hc⟩
    by_cases hn : n.natAbs = 0
    · simp [literal, hn]
    · obtain ⟨r, hr⟩ := List.head?_eq_some_iff.1 hhead
      exact absurd hr (toDigits_ne_zero_cons hn r)
  | float x =>
    rw [literal]
    by_cases hM : x.magnitude = 0
    · rw [if_pos hM]
      exact ⟨List.cons_ne_nil _ _, List.forall_mem_singleton.2 hzero, fun _ => rfl, List.forall_mem_singleton.2 hzero⟩
    · have hdigits := Binary64.digits_decimal_ne_zero (of_decide_eq_true h) hM
      rw [if_neg hM]
      dsimp only
      by_cases hp : Json.floatLayout.isPositional ((Binary64.decimal x.magnitude).pointPosition - 1) = true
      · rw [if_pos hp]; exact Decimal.wellFormed_positionalLiteral hdigits
      · rw [if_neg hp]; exact Decimal.wellFormed_scientificLiteral hdigits

/-- What the literal of a double tells of it. -/
theorem literal_float (x : Binary64) :
    (literal (.float x)).negative = x.negative ∧
    ((literal (.float x)).exponent = none → (literal (.float x)).fraction ≠ []) ∧
    (literal (.float x)).amount = Binary64.amount x.magnitude := by
  rw [literal, Binary64.amount]
  by_cases hM : x.magnitude = 0
  · rw [if_pos hM, if_pos hM]
    exact ⟨rfl, fun _ => List.cons_ne_nil _ _, by simp [Literal.amount, Nat.ofDigitChars_cons]⟩
  · rw [if_neg hM, if_neg hM]
    dsimp only
    by_cases hp : Json.floatLayout.isPositional ((Binary64.decimal x.magnitude).pointPosition - 1) = true
    · rw [if_pos hp]
      obtain ⟨hnegative, hfraction⟩ := Decimal.positionalLiteral_parts x.negative (Binary64.decimal x.magnitude)
      exact ⟨hnegative, fun _ => hfraction, Decimal.amount_positionalLiteral⟩
    · rw [if_neg hp]
      exact ⟨rfl, nofun, Decimal.amount_scientificLiteral⟩

/-- The literal of a number tells which number it is. -/
theorem literal_inj {n m : Number} (hn : n.isFinite = true) (hm : m.isFinite = true) (h : n.literal = m.literal) :
    n = m := by
  have mixed (k : Int) (x : Binary64) : literal (.int k) ≠ literal (.float x) := by
    intro hmixed
    obtain ⟨-, hpoint, -⟩ := literal_float x
    rw [← hmixed] at hpoint
    exact hpoint rfl rfl
  cases n with
  | int n =>
    cases m with
    | int m =>
      obtain ⟨hsign, hdigits, -⟩ := Literal.mk.injEq _ _ _ _ _ _ _ _ ▸ h
      have habs := congrArg (Nat.ofDigitChars 10 · 0) hdigits
      simp only [Nat.ofDigitChars_ten_toDigits, decide_eq_decide] at habs hsign
      exact congrArg int (by omega)
    | float y => exact absurd h (mixed n y)
  | float x =>
    cases m with
    | int m => exact absurd h.symm (mixed m x)
    | float y =>
      obtain ⟨hx, -, hx'⟩ := literal_float x
      obtain ⟨hy, -, hy'⟩ := literal_float y
      rw [h] at hx hx'
      refine congrArg float (Binary64.eq_of_magnitude (hx.symm.trans hy) ?_)
      exact Binary64.amount_inj (of_decide_eq_true hn) (of_decide_eq_true hm) (hx'.symm.trans hy')

/-- **The text of a number ends by itself**: it tells the number, and where it ends. -/
theorem chars_append_inj {n m : Number} (hn : n.isFinite = true) (hm : m.isFinite = true) {r s : List Char}
    (hr : EndsNumber r) (hs : EndsNumber s) (h : n.chars ++ r = m.chars ++ s) : n = m ∧ r = s := by
  have hread := Literal.number?_chars (wellFormed_literal hn) hr
  rw [chars_literal hn, h, ← chars_literal hm, Literal.number?_chars (wellFormed_literal hm) hs] at hread
  obtain ⟨hl, hrest⟩ := Prod.mk.inj (Option.some.inj hread)
  exact ⟨literal_inj hn hm hl.symm, hrest.symm⟩

end Number
end FederatedLedger
