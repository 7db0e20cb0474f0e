import ChartScript.Proofs.Grammar

/-!
# Operators in layers

A grammar of binary operators in five layers: each layer is an operand of the next tighter one and
any number of operators of its own with such operands behind them, grouped to the left. Reading
operators by their precedence reads what this grammar reads, up to the same place and with the same
failures.
-/

set_option autoImplicit false

namespace ChartScript

namespace TokenKind

def disjunctionOp? : TokenKind → Option BinaryOp
  | .orWord => some .logicalOr
  | _ => none

def conjunctionOp? : TokenKind → Option BinaryOp
  | .andWord => some .logicalAnd
  | _ => none

def comparisonOp? : TokenKind → Option BinaryOp
  | .equal => some .equal
  | .notEqual => some .notEqual
  | .greater => some .greater
  | .greaterEqual => some .greaterEqual
  | .less => some .less
  | .lessEqual => some .lessEqual
  | _ => none

def sumOp? : TokenKind → Option BinaryOp
  | .plus => some .add
  | .minus => some .subtract
  | _ => none

def productOp? : TokenKind → Option BinaryOp
  | .star => some .multiply
  | .slash => some .divide
  | .percent => some .modulo
  | _ => none

/-- These are the operators that bind as tightly as a level says. -/
def AreOfLevel (operator? : TokenKind → Option BinaryOp) (level : Nat) : Prop :=
  ∀ kind op, operator? kind = some op ↔ kind.binaryOp? = some (op, level)

theorem disjunctionOp?_areOfLevel : AreOfLevel disjunctionOp? 1 := by
  intro kind op
  cases kind <;> simp [disjunctionOp?, binaryOp?]

theorem conjunctionOp?_areOfLevel : AreOfLevel conjunctionOp? 2 := by
  intro kind op
  cases kind <;> simp [conjunctionOp?, binaryOp?]

theorem comparisonOp?_areOfLevel : AreOfLevel comparisonOp? 3 := by
  intro kind op
  cases kind <;> simp [comparisonOp?, binaryOp?]

theorem sumOp?_areOfLevel : AreOfLevel sumOp? 4 := by
  intro kind op
  cases kind <;> simp [sumOp?, binaryOp?]

theorem productOp?_areOfLevel : AreOfLevel productOp? 5 := by
  intro kind op
  cases kind <;> simp [productOp?, binaryOp?]

theorem precedence_le {kind : TokenKind} {op : BinaryOp} {precedence : Nat}
    (isOp : kind.binaryOp? = some (op, precedence)) : precedence ≤ 5 := by
  unfold binaryOp? at isOp
  split at isOp <;> cases isOp <;> omega

end TokenKind

open TokenKind (AreOfLevel)

namespace Cursor

/-! ## The grammar -/

section Layers

variable (bound : Nat)

/-- The operators of a layer behind a left operand, each with an operand of the next tighter layer
behind it. They group to the left. -/
def chain (operator? : TokenKind → Option BinaryOp) (tighter : Operand bound) (left : Expr)
    (cursor : Cursor) (fits : cursor.remaining ≤ bound) : ParseResult Expr (cursor.remaining + 1) :=
  match cursor.select? operator? with
  | some ⟨(op, span), afterOp, afterOp_lt⟩ => do
    let ⟨right, next, next_lt⟩ ← tighter afterOp (by omega)
    let parsed ← chain operator? tighter (.binary left op right span) next (by omega)
    return parsed.widen (by omega)
  | none => .ok ⟨left, cursor, Nat.lt_succ_self _⟩
termination_by cursor.remaining

/-- An operand of the next tighter layer, and the operators of this layer behind it. -/
def layer (operator? : TokenKind → Option BinaryOp) (tighter : Operand bound) : Operand bound :=
  fun cursor fits => do
    let ⟨left, next, next_lt⟩ ← tighter cursor fits
    let parsed ← chain bound operator? tighter left next (by omega)
    return parsed.widen next_lt

variable (operand : Operand bound)

def products : Operand bound :=
  layer bound TokenKind.productOp? operand

def sums : Operand bound :=
  layer bound TokenKind.sumOp? (products bound operand)

def comparisons : Operand bound :=
  layer bound TokenKind.comparisonOp? (sums bound operand)

def conjunctions : Operand bound :=
  layer bound TokenKind.conjunctionOp? (comparisons bound operand)

def disjunctions : Operand bound :=
  layer bound TokenKind.disjunctionOp? (conjunctions bound operand)

end Layers

/-! ## Operators by precedence -/

/-- No operator stands at the cursor that binds as tightly as `level`. -/
def Settled (level : Nat) (cursor : Cursor) : Prop :=
  ∀ token next op precedence, cursor.Takes token next →
    token.kind.binaryOp? = some (op, precedence) → precedence < level

/-- An operator that binds as tightly as `level` stands at the cursor, or none does. -/
theorem takes_operator_or_settled (level : Nat) (cursor : Cursor) :
    (∃ token afterOp op precedence, cursor.Takes token afterOp ∧
      token.kind.binaryOp? = some (op, precedence) ∧ level ≤ precedence) ∨
      cursor.Settled level := by
  obtain ⟨_ | ⟨token, rest⟩, finish, site⟩ := cursor
  · refine .inr fun _ _ _ _ taken _ => ?_
    cases taken
  · have taken : Takes ⟨token :: rest, finish, site⟩ token ⟨rest, finish, site⟩ := rfl
    cases found : token.kind.binaryOp? with
    | none =>
      refine .inr fun _ _ _ _ again isOp => ?_
      obtain ⟨rfl, _⟩ := taken.unique again
      rw [found] at isOp
      cases isOp
    | some operator =>
      obtain ⟨op, precedence⟩ := operator
      rcases Nat.lt_or_ge precedence level with looser | binds
      · refine .inr fun _ _ _ _ again isOp => ?_
        obtain ⟨rfl, _⟩ := taken.unique again
        cases found.symm.trans isOp
        exact looser
      · exact .inl ⟨token, _, op, precedence, taken, found, binds⟩

theorem Settled.select? {level : Nat} {cursor : Cursor} (settled : cursor.Settled level)
    {operator? : TokenKind → Option BinaryOp} (ofLevel : AreOfLevel operator? level) :
    cursor.select? operator? = none := by
  obtain ⟨_ | ⟨token, rest⟩, finish, site⟩ := cursor
  · rfl
  · refine select?_of_none (Option.eq_none_iff_forall_ne_some.mpr fun op isOp => ?_)
    have looser := settled token ⟨rest, finish, site⟩ op level rfl ((ofLevel _ op).mp isOp)
    exact Nat.lt_irrefl level looser

section Operators

variable {bound : Nat} {operand : Operand bound} {level : Nat}

theorem operators_of_settled {left : Expr} {cursor : Cursor} (fits : cursor.remaining ≤ bound)
    (settled : cursor.Settled level) :
    operators bound operand level left cursor fits = .ok ⟨left, cursor, Nat.lt_succ_self _⟩ := by
  obtain ⟨_ | ⟨token, rest⟩, finish, site⟩ := cursor
  · rw [operators]
    rfl
  · have looser := settled token ⟨rest, finish, site⟩
    exact operators_of_looser fits fun op precedence => looser op precedence rfl

theorem settled_of_operators {left value : Expr} {cursor next : Cursor}
    {fits : cursor.remaining ≤ bound} {lt : next.remaining < cursor.remaining + 1}
    (parsed : operators bound operand level left cursor fits = .ok ⟨value, next, lt⟩) :
    next.Settled level := by
  rcases takes_operator_or_settled level cursor with
    ⟨token, afterOp, op, precedence, taken, isOp, binds⟩ | settled
  · have afterOp_lt := taken.remaining_lt
    rw [operators_of_takes fits taken isOp binds] at parsed
    obtain ⟨⟨right, afterRight, afterRight_lt⟩, _, parsed⟩ := of_bind_ok parsed
    obtain ⟨⟨_, last, _⟩, others, parsed⟩ := of_bind_ok parsed
    cases parsed
    exact settled_of_operators others
  · rw [operators_of_settled fits settled] at parsed
    cases parsed
    exact settled
termination_by cursor.remaining

theorem settled_of_binary {value : Expr} {cursor next : Cursor} {fits : cursor.remaining ≤ bound}
    {lt : next.remaining < cursor.remaining}
    (parsed : binary bound operand level cursor fits = .ok ⟨value, next, lt⟩) :
    next.Settled level := by
  rw [binary] at parsed
  obtain ⟨⟨left, afterLeft, _⟩, _, parsed⟩ := of_bind_ok parsed
  obtain ⟨⟨_, last, _⟩, others, parsed⟩ := of_bind_ok parsed
  cases parsed
  exact settled_of_operators others

/-- The operators from a level on are first those that bind more tightly. -/
theorem operators_eq_tighter_first (left : Expr) (cursor : Cursor)
    (fits : cursor.remaining ≤ bound) :
    operators bound operand level left cursor fits = (do
      let ⟨tighter, next, next_lt⟩ ← operators bound operand (level + 1) left cursor fits
      let parsed ← operators bound operand level tighter next
        (Nat.le_trans (Nat.le_of_lt_succ next_lt) fits)
      return parsed.widen next_lt) := by
  rcases takes_operator_or_settled (level + 1) cursor with
    ⟨token, afterOp, op, precedence, taken, isOp, binds⟩ | settled
  · have afterOp_lt := taken.remaining_lt
    rw [operators_of_takes fits taken isOp (Nat.le_of_succ_le binds),
      operators_of_takes fits taken isOp binds]
    cases binary bound operand (precedence + 1) afterOp _ with
    | error failure => rfl
    | ok parsed =>
      obtain ⟨right, next, next_lt⟩ := parsed
      simp only [ok_bind]
      rw [operators_eq_tighter_first (.binary left op right token.span) next]
      cases operators bound operand (level + 1) _ next _ with
      | error failure => rfl
      | ok parsed =>
        simp only [ok_bind, pure_eq_ok, Parsed.widen]
        cases operators bound operand level parsed.value parsed.next _ <;> rfl
  · rw [operators_of_settled fits settled]
    simp only [ok_bind]
    cases operators bound operand level left cursor fits <;> rfl
termination_by cursor.remaining

/-- Where no operator binds more tightly than a level, the operators from there on are a chain of
those of the level. -/
theorem operators_eq_chain {operator? : TokenKind → Option BinaryOp}
    (ofLevel : AreOfLevel operator? level) (left : Expr) (cursor : Cursor)
    (fits : cursor.remaining ≤ bound) (settled : cursor.Settled (level + 1)) :
    operators bound operand level left cursor fits =
      chain bound operator? (binary bound operand (level + 1)) left cursor fits := by
  rw [chain]
  rcases takes_operator_or_settled level cursor with
    ⟨token, afterOp, op, precedence, taken, isOp, binds⟩ | looser
  · have afterOp_lt := taken.remaining_lt
    have same : precedence = level :=
      Nat.le_antisymm (Nat.le_of_lt_succ (settled _ _ _ _ taken isOp)) binds
    rw [same] at isOp
    rw [operators_of_takes fits taken isOp (Nat.le_refl level),
      taken.select? ((ofLevel _ _).mpr isOp)]
    simp only
    cases second : binary bound operand (level + 1) afterOp _ with
    | error failure => rfl
    | ok parsed =>
      obtain ⟨right, next, next_lt⟩ := parsed
      simp only [ok_bind]
      rw [operators_eq_chain ofLevel _ next _ (settled_of_binary second)]
  · rw [operators_of_settled fits looser, looser.select? ofLevel]
termination_by cursor.remaining

/-- What is read from a level on is a layer of operands that bind more tightly. -/
theorem binary_eq_layer {operator? : TokenKind → Option BinaryOp}
    (ofLevel : AreOfLevel operator? level) :
    binary bound operand level = layer bound operator? (binary bound operand (level + 1)) := by
  funext cursor fits
  rw [layer, binary, binary]
  cases operand cursor fits with
  | error failure => rfl
  | ok parsed =>
    obtain ⟨left, next, next_lt⟩ := parsed
    simp only [ok_bind]
    rw [operators_eq_tighter_first left next]
    cases tighter : operators bound operand (level + 1) left next _ with
    | error failure => rfl
    | ok parsed =>
      obtain ⟨value, last, last_lt⟩ := parsed
      simp only [ok_bind, pure_eq_ok, Parsed.widen]
      rw [operators_eq_chain ofLevel value last _ (settled_of_operators tighter)]
      cases chain bound operator? _ value last _ <;> rfl

theorem binary_eq_operand (tightest : 5 < level) : binary bound operand level = operand := by
  funext cursor fits
  rw [binary]
  cases operand cursor fits with
  | error failure => rfl
  | ok parsed =>
    obtain ⟨left, next, next_lt⟩ := parsed
    have settled : next.Settled level := fun _ _ _ _ _ isOp =>
      Nat.lt_of_le_of_lt (TokenKind.precedence_le isOp) tightest
    simp only [ok_bind, operators_of_settled _ settled]
    rfl

end Operators

/-- Reading operators by their precedence is reading them in layers: the same expression up to the
same cursor, or the same failure. -/
theorem binary_eq_disjunctions (bound : Nat) (nested : Nested bound) :
    binary bound (unary bound nested) 1 = disjunctions bound (unary bound nested) := by
  have products : binary bound (unary bound nested) 5 = products bound (unary bound nested) := by
    rw [binary_eq_layer TokenKind.productOp?_areOfLevel, binary_eq_operand (by omega)]
    rfl
  have sums : binary bound (unary bound nested) 4 = sums bound (unary bound nested) := by
    rw [binary_eq_layer TokenKind.sumOp?_areOfLevel, products]
    rfl
  have comparisons : binary bound (unary bound nested) 3 = comparisons bound (unary bound nested) := by
    rw [binary_eq_layer TokenKind.comparisonOp?_areOfLevel, sums]
    rfl
  have conjunctions : binary bound (unary bound nested) 2 = conjunctions bound (unary bound nested) := by
    rw [binary_eq_layer TokenKind.conjunctionOp?_areOfLevel, comparisons]
    rfl
  rw [binary_eq_layer TokenKind.disjunctionOp?_areOfLevel, conjunctions]
  rfl

end Cursor

end ChartScript
