import CollectionGlue.Proofs.ComparatorPrograms
import CollectionGlue.Proofs.SymbolHygiene

/-! # Where the generated comparators are three-way comparisons

A comparator that branches orders all values of its type. One that subtracts orders two values when
their difference fits the returned integer, and so orders all values of a type exactly when the type is
narrower than the returned integer.
-/
namespace CollectionGlue

/-- The integers of a type: two's complement, or not negative for an unsigned one. -/
def Representable (s : Signedness) (width : Nat) (x : Int) : Prop :=
  match s with
  | .unsigned => 0 ≤ x ∧ x < 2 ^ width
  | _ => -2 ^ (width - 1) ≤ x ∧ x < 2 ^ (width - 1)

/-- The pointers that a comparator is made for: to integers of its type, and null behind a guard. -/
def Admissible (nullGuard : Bool) (s : Signedness) (width : Nat) : Option Int → Prop
  | none => nullGuard = true
  | some x => Representable s width x

/-- A null pointer is below every other. -/
def Below : Option Int → Option Int → Prop
  | _, none => False
  | none, some _ => True
  | some x, some y => x < y

/-- The sign of the result says how what is behind the two pointers compares. -/
def Body.Orders (body : Body) (width : Nat) (p q : Option Int) : Prop :=
  ∃ r, body.result width p q = some r ∧
    (r < 0 ↔ Below p q) ∧ (r = 0 ↔ p = q) ∧ (0 < r ↔ Below q p)

/-- A three-way comparison: the sign is right for all pointers and so makes a total order of them. -/
structure ThreeWay (nullGuard : Bool) (s : Signedness) (width : Nat) (body : Body) : Prop where
  orders : ∀ p q, Admissible nullGuard s width p → Admissible nullGuard s width q →
    body.Orders width p q
  total : ∀ p q r r', Admissible nullGuard s width p → Admissible nullGuard s width q →
    body.result width p q = some r → body.result width q p = some r' → r ≤ 0 ∨ r' ≤ 0
  antisymm : ∀ p q r r', Admissible nullGuard s width p → Admissible nullGuard s width q →
    body.result width p q = some r → body.result width q p = some r' → r ≤ 0 → r' ≤ 0 → p = q
  trans : ∀ p q u r r' r'', Admissible nullGuard s width p → Admissible nullGuard s width q →
    Admissible nullGuard s width u → body.result width p q = some r →
      body.result width q u = some r' → body.result width p u = some r'' → r ≤ 0 → r' ≤ 0 → r'' ≤ 0

/-- The difference of what is behind two pointers fits a 32-bit integer. -/
def DifferenceFits : Option Int → Option Int → Prop
  | some x, some y => -2 ^ 31 ≤ x - y ∧ x - y < 2 ^ 31
  | _, _ => True

private theorem below_trichotomy (p q : Option Int) : Below p q ∨ p = q ∨ Below q p := by
  cases p with
  | none => cases q <;> simp [Below]
  | some x =>
    cases q with
    | none => simp [Below]
    | some y => simpa [Below] using Int.lt_trichotomy x y

private theorem not_below_or_not_below (p q : Option Int) : ¬Below q p ∨ ¬Below p q := by
  cases p <;> cases q <;> simp [Below]
  omega

private theorem not_below_trans {p q u : Option Int} (h : ¬Below q p) (h' : ¬Below u q) : ¬Below u p := by
  cases p <;> cases q <;> cases u <;> simp_all [Below]
  omega

/-- A right sign is not positive exactly when the second is not below the first. -/
theorem Body.Orders.le_zero_iff {body : Body} {width : Nat} {p q : Option Int} {r : Int}
    (h : body.Orders width p q) (result : body.result width p q = some r) :
    r ≤ 0 ↔ ¬Below q p := by
  obtain ⟨r', result', -, -, above⟩ := h
  cases result.symm.trans result'
  rw [← above, Int.not_lt]

private theorem ThreeWay.of_orders {nullGuard : Bool} {s : Signedness} {width : Nat} {body : Body}
    (orders : ∀ p q, Admissible nullGuard s width p → Admissible nullGuard s width q →
      body.Orders width p q) : ThreeWay nullGuard s width body where
  orders := orders
  total := by
    intro p q r r' hp hq result result'
    rw [(orders p q hp hq).le_zero_iff result, (orders q p hq hp).le_zero_iff result']
    exact not_below_or_not_below p q
  antisymm := by
    intro p q r r' hp hq result result' le le'
    have above := ((orders p q hp hq).le_zero_iff result).1 le
    have below := ((orders q p hq hp).le_zero_iff result').1 le'
    exact ((below_trichotomy p q).resolve_left below).resolve_right above
  trans := by
    intro p q u r r' r'' hp hq hu result result' result'' le le'
    have first := ((orders p q hp hq).le_zero_iff result).1 le
    have second := ((orders q u hq hu).le_zero_iff result').1 le'
    exact ((orders p u hp hu).le_zero_iff result'').2 (not_below_trans first second)

private theorem orders_of_null {body : Body} {rest : List Statement}
    (guarded : body.statements = guardStatements true ++ rest) (width : Nat) {p q : Option Int}
    (null : p = none ∨ q = none) : body.Orders width p q := by
  refine ⟨if p = q then 0 else if p = none then -1 else 1, ?_, ?_⟩
  · rw [Body.result, guarded, runStatements_guard_none null]
    cases p <;> cases q <;> simp_all
  · cases p <;> cases q <;> simp_all [Below]

private theorem orders_branching (cType : String) {nullGuard : Bool} {s : Signedness} {width : Nat}
    {p q : Option Int} (hp : Admissible nullGuard s width p) (hq : Admissible nullGuard s width q) :
    (Body.branching cType nullGuard).Orders width p q := by
  cases p with
  | none =>
    cases hp
    exact orders_of_null rfl width (.inl rfl)
  | some x =>
    cases q with
    | none =>
      cases hq
      exact orders_of_null rfl width (.inr rfl)
    | some y =>
      refine ⟨_, result_branching cType nullGuard width x y, ?_⟩
      simp only [Below, Option.some.injEq]
      rcases Int.lt_trichotomy x y with below | same | above
      · rw [if_neg (Int.ne_of_lt below), if_pos below]
        omega
      · rw [if_pos same]
        omega
      · rw [if_neg (Int.ne_of_gt above), if_neg (Int.not_lt.2 (Int.le_of_lt above))]
        omega

private theorem orders_subtraction (cType : String) {nullGuard : Bool} {s : Signedness} {width : Nat}
    {p q : Option Int} (hp : Admissible nullGuard s width p) (hq : Admissible nullGuard s width q)
    (fits : DifferenceFits p q) : (Body.subtraction cType nullGuard).Orders width p q := by
  cases p with
  | none =>
    cases hp
    exact orders_of_null rfl width (.inl rfl)
  | some x =>
    cases q with
    | none =>
      cases hq
      exact orders_of_null rfl width (.inr rfl)
    | some y =>
      have exact_difference : (x - y).bmod (2 ^ 32) = x - y :=
        Int.bmod_eq_of_le_mul_two (by have := fits.1; omega) (by have := fits.2; omega)
      refine ⟨_, result_subtraction cType nullGuard width x y, ?_⟩
      rw [exact_difference]
      simp only [Below, Option.some.injEq]
      omega

/-- In a signed type narrower than the returned integer every difference fits. -/
theorem differenceFits_of_narrow {nullGuard : Bool} {width : Nat} (narrow : width < 32)
    {p q : Option Int} (hp : Admissible nullGuard .signed width p)
    (hq : Admissible nullGuard .signed width q) : DifferenceFits p q := by
  have bound : (2 : Int) ^ (width - 1) ≤ 2 ^ 30 := pow_le_pow_right₀ (by decide) (by omega)
  cases p with
  | none => trivial
  | some x =>
    cases q with
    | none => trivial
    | some y =>
      obtain ⟨lowx, highx⟩ := hp
      obtain ⟨lowy, highy⟩ := hq
      constructor <;> omega

/-- Among 32-bit integers a difference that does not fit comes out with the wrong sign. -/
theorem differenceFits_of_orders {cType : String} {nullGuard : Bool} {width : Nat} (narrow : width ≤ 32)
    {p q : Option Int} (hp : Admissible nullGuard .signed width p)
    (hq : Admissible nullGuard .signed width q)
    (orders : (Body.subtraction cType nullGuard).Orders width p q) : DifferenceFits p q := by
  have bound : (2 : Int) ^ (width - 1) ≤ 2 ^ 31 := pow_le_pow_right₀ (by decide) (by omega)
  cases p with
  | none => trivial
  | some x =>
    cases q with
    | none => trivial
    | some y =>
      obtain ⟨lowx, highx⟩ := hp
      obtain ⟨lowy, highy⟩ := hq
      obtain ⟨r, result, below, -, above⟩ := orders
      rw [result_subtraction] at result
      cases result
      simp only [Below, Int.bmod_def] at below above
      constructor <;> omega

/-- In a wider one the greatest 32-bit integer comes out below minus one. -/
theorem not_threeWay_subtraction (cType : String) (nullGuard : Bool) {width : Nat} (wide : 32 ≤ width) :
    ¬ThreeWay nullGuard .signed width (.subtraction cType nullGuard) := by
  have bound : (2 : Int) ^ 31 ≤ 2 ^ (width - 1) := pow_le_pow_right₀ (by decide) (by omega)
  intro law
  have high : Admissible nullGuard .signed width (some 2147483647) := ⟨by omega, by omega⟩
  have low : Admissible nullGuard .signed width (some (-1)) := ⟨by omega, by omega⟩
  obtain ⟨r, result, below, -, -⟩ := law.orders _ _ high low
  rw [result_subtraction] at result
  cases result
  have wrong : (2147483647 : Int) < -1 := below.1 (by decide)
  exact absurd wrong (by decide)

theorem threeWay_iff {nullGuard : Bool} {e : TypeEntry} {body : Body}
    (made : comparisonBody? nullGuard e = some body) (width : Nat) :
    ThreeWay nullGuard e.signedness width body ↔ e.signedness = .unsigned ∨ width < 32 := by
  rcases comparisonBody?_eq_some made with ⟨signed, rfl⟩ | ⟨unsigned, rfl⟩
  · rw [signed]
    constructor
    · intro law
      exact .inr (Nat.lt_of_not_le fun wide => not_threeWay_subtraction _ _ wide law)
    · intro narrow
      have narrow := narrow.resolve_left (by decide)
      exact .of_orders fun p q hp hq =>
        orders_subtraction _ hp hq (differenceFits_of_narrow narrow hp hq)
  · exact ⟨fun _ => .inl unsigned, fun _ => .of_orders fun p q hp hq => orders_branching _ hp hq⟩

private theorem orders_of_fits {nullGuard : Bool} {e : TypeEntry} {body : Body}
    (made : comparisonBody? nullGuard e = some body) {width : Nat} {p q : Option Int}
    (hp : Admissible nullGuard e.signedness width p) (hq : Admissible nullGuard e.signedness width q)
    (fits : e.signedness = .unsigned ∨ DifferenceFits p q) : body.Orders width p q := by
  rcases comparisonBody?_eq_some made with ⟨signed, rfl⟩ | ⟨-, rfl⟩
  · exact orders_subtraction _ hp hq (fits.resolve_left (by simp [signed]))
  · exact orders_branching _ hp hq

private theorem fits_of_orders {nullGuard : Bool} {e : TypeEntry} {body : Body}
    (made : comparisonBody? nullGuard e = some body) {width : Nat} (narrow : width ≤ 32)
    {p q : Option Int} (hp : Admissible nullGuard e.signedness width p)
    (hq : Admissible nullGuard e.signedness width q) (orders : body.Orders width p q) :
    e.signedness = .unsigned ∨ DifferenceFits p q := by
  rcases comparisonBody?_eq_some made with ⟨signed, rfl⟩ | ⟨unsigned, -⟩
  · rw [signed] at hp hq
    exact .inr (differenceFits_of_orders narrow hp hq orders)
  · exact .inl unsigned

/-- The comparator of a numeric entry is a three-way comparison of the integers of a width, and of null
pointers behind a guard, exactly if it branches or the width is below that of the result. At any width
it orders two values if it branches or their difference fits, and up to the width of the result only
then. -/
theorem comparator_orders_iff (nullGuard : Bool) (width : Nat) {t : TypeTable} {e : TypeEntry}
    (mem : e ∈ t.entries) (numeric : e.signedness ≠ .nonNumeric) :
    ∃ f ∈ comparators nullGuard t, f.name = roleSymbol e.tag .compare ∧
      f.body.statements.flatMap (Statement.lines e.spelling) = f.body.lines ∧
      (ThreeWay nullGuard e.signedness width f.body ↔ e.signedness = .unsigned ∨ width < 32) ∧
      ∀ p q, Admissible nullGuard e.signedness width p → Admissible nullGuard e.signedness width q →
        (e.signedness = .unsigned ∨ DifferenceFits p q → f.body.Orders width p q) ∧
        (width ≤ 32 → f.body.Orders width p q → e.signedness = .unsigned ∨ DifferenceFits p q) := by
  obtain ⟨body, made⟩ : ∃ body, comparisonBody? nullGuard e = some body := by
    cases signedness : e.signedness <;> simp_all [comparisonBody?]
  refine ⟨⟨"int", roleSymbol e.tag .compare, [⟨"void *", "a"⟩, ⟨"void *", "b"⟩], body⟩, ?_, rfl,
    lines_statements made, threeWay_iff made width, ?_⟩
  · exact List.mem_filterMap.2 ⟨e, mem, by simp [comparator?, made]⟩
  · exact fun p q hp hq => ⟨orders_of_fits made hp hq, fun narrow => fits_of_orders made narrow hp hq⟩

theorem builtin_long_orders_iff :
    (⟨"long", .signed, some "long"⟩ : TypeEntry) ∈ TypeTable.builtin.entries ∧
      ∃ f ∈ comparators true TypeTable.builtin, f.name = roleSymbol "long" .compare ∧
        f.body.statements.flatMap (Statement.lines "long") = f.body.lines ∧
        (ThreeWay true .signed 64 f.body ↔ Signedness.signed = .unsigned ∨ 64 < 32) ∧
        ∀ p q, Admissible true .signed 64 p → Admissible true .signed 64 q →
          (Signedness.signed = .unsigned ∨ DifferenceFits p q → f.body.Orders 64 p q) ∧
          (64 ≤ 32 → f.body.Orders 64 p q → Signedness.signed = .unsigned ∨ DifferenceFits p q) := by
  have mem : (⟨"long", .signed, some "long"⟩ : TypeEntry) ∈ TypeTable.builtin.entries := by
    simp [TypeTable.builtin, builtinEntries]
  exact ⟨mem, comparator_orders_iff true 64 mem (by decide)⟩

/-- The comparator of a table with the one tag `int` puts the greatest 32-bit integer below minus one. -/
theorem int_comparator_wraps :
    ∃ t, TypeTable.ofEntries [⟨"int", .signed, none⟩] = .ok t ∧
      ∃ f ∈ comparators false t, f.name = "int_compare" ∧
        Representable .signed 32 2147483647 ∧ Representable .signed 32 (-1) ∧
        f.body.result 32 (some 2147483647) (some (-1)) = some (-2147483648) := by
  have acceptable : Acceptable [⟨"int", .signed, none⟩] := by
    refine ⟨?_, ?_, ?_, ?_⟩ <;> decide +kernel
  refine ⟨⟨_, acceptable⟩, TypeTable.ofEntries_eq_ok_iff.2 rfl, _, List.mem_singleton_self _, rfl, ?_⟩
  refine ⟨⟨by decide, by decide⟩, ⟨by decide, by decide⟩, ?_⟩
  exact result_subtraction _ false 32 2147483647 (-1)

end CollectionGlue
