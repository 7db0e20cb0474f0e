import ChartScript.Proofs.ReadTokens
import ChartScript.Proofs.SyntaxParts
import Mathlib.Data.List.Basic

/-!
# The numbers of sites

The sites of a parsed program are the numbers from zero up to its number of sites, each of them
once. So no two calls or history references share one.
-/

set_option autoImplicit false

namespace ChartScript

/-- The sites that were there before, and the numbers from `first` up to `last`. -/
structure Numbered (first last : Nat) (before after : List Nat) : Prop where
  le : first ≤ last
  perm : after.Perm (before ++ List.range' first (last - first))

namespace Numbered

variable {first middle last : Nat} {before between after : List Nat}

theorem refl (first : Nat) (before : List Nat) : Numbered first first before before :=
  ⟨Nat.le_refl _, by simp⟩

theorem trans (left : Numbered first middle before between)
    (right : Numbered middle last between after) : Numbered first last before after := by
  have joined : List.range' first (middle - first) ++ List.range' middle (last - middle) =
      List.range' first (last - first) := by
    have := left.le
    have := right.le
    have step := @List.range'_append first (middle - first) (last - middle) 1
    rw [Nat.one_mul, Nat.add_sub_cancel' left.le] at step
    rw [step]
    congr 1
    omega
  refine ⟨Nat.le_trans left.le right.le, right.perm.trans ?_⟩
  rw [← joined, ← List.append_assoc]
  exact left.perm.append_right _

/-- What is read on its own is added to what was there. -/
theorem append (before : List Nat) (own : Numbered first last [] after) :
    Numbered first last before (before ++ after) :=
  ⟨own.le, own.perm.append_left before⟩

theorem of_perm {others : List Nat} (numbered : Numbered first last before after)
    (same : others.Perm after) : Numbered first last before others :=
  ⟨numbered.le, same.trans numbered.perm⟩

theorem take (first : Nat) (before : List Nat) :
    Numbered first (first + 1) before (first :: before) := by
  refine ⟨Nat.le_succ _, ?_⟩
  rw [Nat.add_sub_cancel_left]
  exact (List.perm_append_singleton first before).symm

theorem nodup (own : Numbered first last [] after) : after.Nodup :=
  own.perm.nodup_iff.mpr (List.nodup_range' ..)

theorem perm_range (own : Numbered 0 last [] after) : after.Perm (List.range last) := by
  rw [List.range_eq_range']
  exact own.perm

end Numbered

/-! ## Sites of expressions -/

namespace Expr

variable (span : Span)

@[simp]
theorem sites_member (object : Expr) (name : String) :
    (Expr.member object name span).sites = object.sites := rfl

@[simp]
theorem sites_history (series offset : Expr) (site : Nat) :
    (Expr.history series offset site span).sites = site :: (series.sites ++ offset.sites) := by
  simp [sites, parts, site?]

@[simp]
theorem sites_unary (op : UnaryOp) (operand : Expr) :
    (Expr.unary op operand span).sites = operand.sites := rfl

@[simp]
theorem sites_binary (left : Expr) (op : BinaryOp) (right : Expr) :
    (Expr.binary left op right span).sites = left.sites ++ right.sites :=
  List.filterMap_append

@[simp]
theorem sites_ternary (condition whenTrue whenFalse : Expr) :
    (Expr.ternary condition whenTrue whenFalse span).sites =
      condition.sites ++ whenTrue.sites ++ whenFalse.sites :=
  List.filterMap_append.trans (congrArg (· ++ whenFalse.sites) List.filterMap_append)

@[simp]
theorem sites_call (call : Call) : (Expr.call call span).sites = call.sites := rfl

end Expr

theorem Call.sites_mk (function : String) (site : Nat) (arguments : List Expr)
    (named : List NamedArgument) :
    (Call.mk function site arguments named).sites =
      site :: (arguments.flatMap Expr.sites ++ named.flatMap (·.value.sites)) := by
  simp only [Call.sites, Call.site, Call.parts, Expr.partsOfAll_eq_flatMap,
    NamedArgument.partsOfAll_eq_flatMap, List.filterMap_append, List.filterMap_flatMap]
  rfl

theorem Token.sites_literal {token : Token} {value : Expr} (literal : token.literal? = some value) :
    value.sites = [] := by
  unfold Token.literal? at literal
  split at literal <;> cases literal <;> rfl

namespace Cursor

def ArgumentList.sites (list : ArgumentList) : List Nat :=
  list.positional.flatMap Expr.sites ++ list.named.flatMap (·.value.sites)

theorem ArgumentList.sites_addNamed (list : ArgumentList) (name : String) (value : Expr)
    (span : Span) : (list.addNamed (.mk name value span)).sites = list.sites ++ value.sites := by
  simp [sites, addNamed, NamedArgument.value]

theorem ArgumentList.sites_addPositional (list : ArgumentList) (value : Expr) :
    (list.addPositional value).sites.Perm (list.sites ++ value.sites) := by
  simp only [sites, addPositional, List.flatMap_append, List.flatMap_singleton, List.append_assoc]
  exact List.perm_append_comm.append_left _

/-- The sites of what a production was given. -/
def Production.givenSites : Production → List Nat
  | .operators _ left _ => left.sites
  | .suffixes operand _ => operand.sites
  | .argumentList before _ => before.sites
  | .argument before _ => before.sites
  | _ => []

/-- The sites of what a production yields. -/
def Production.sites : Production → List Nat
  | .expression value => value.sites
  | .binary _ value => value.sites
  | .operators _ _ value => value.sites
  | .unary value => value.sites
  | .primary value => value.sites
  | .suffixes _ value => value.sites
  | .nameOrCall _ _ value => value.sites
  | .callArguments _ call => call.sites
  | .argumentList _ after => after.sites
  | .argument _ after => after.sites

theorem Takes.nextSite {cursor next : Cursor} {token : Token} (taken : cursor.Takes token next) :
    cursor.nextSite = next.nextSite := by
  subst taken
  rfl

theorem Derives.numbered {start final : Cursor} {production : Production}
    (derived : Derives start production final) :
    Numbered start.nextSite final.nextSite production.givenSites production.sites := by
  induction derived with
  | @choice _ _ _ _ _ _ _ _ condition whenTrue whenFalse _ marked _ _ parted _ _ first second
      third =>
    rw [marked.nextSite] at first
    rw [parted.nextSite] at second
    have both := (first.trans (second.append condition.sites)).trans
      (third.append (condition.sites ++ whenTrue.sites))
    exact both.of_perm (.of_eq (Expr.sites_ternary ..))
  | operation _ _ only => exact only
  | operands _ _ first others => exact first.trans others
  | @operator _ _ _ _ _ _ _ _ left right _ taken _ _ _ _ second others =>
    rw [taken.nextSite]
    have both := second.append left.sites
    exact (both.of_perm (.of_eq (Expr.sites_binary ..))).trans others
  | noOperator | noSuffix | noArgument => exact .refl _ _
  | unaryOperator taken _ _ only =>
    rw [taken.nextSite]
    exact only
  | operand _ _ _ first others => exact first.trans others
  | literal taken isLiteral =>
    rw [taken.nextSite]
    exact (Numbered.refl _ []).of_perm (.of_eq (Token.sites_literal isLiteral))
  | named taken _ _ others =>
    rw [taken.nextSite]
    exact others
  | parenthesised opened _ _ closed _ inner =>
    rw [opened.nextSite, ← closed.nextSite]
    exact inner
  | longerName dotted _ taken _ _ _ first others =>
    rw [dotted.nextSite, taken.nextSite]
    exact first.trans others
  | member _ dotted _ taken _ _ _ others =>
    rw [dotted.nextSite, taken.nextSite]
    exact others
  | @history _ _ _ afterEnd _ opening _ series offset _ opened _ _ closed _ _ inner others =>
    rw [opened.nextSite]
    rw [closed.nextSite] at inner
    have site := Numbered.take afterEnd.nextSite (series.sites ++ offset.sites)
    have own := ((inner.append series.sites).trans site).of_perm
      (.of_eq (Expr.sites_history opening.span ..))
    exact own.trans others
  | uncalled => exact .refl _ _
  | called _ only => exact only
  | @callArguments _ inside _ _ _ _ _ list opened _ _ closed _ inner =>
    rw [opened.nextSite, ← closed.nextSite]
    have site := Numbered.take inside.nextSite []
    have passed : Numbered _ _ [] list.sites := inner
    exact (site.trans (passed.append [_])).of_perm (.of_eq (Call.sites_mk ..))
  | lastArgument _ _ _ only => exact only
  | moreArguments _ _ parted _ _ first others =>
    rw [parted.nextSite] at first
    exact first.trans others
  | @namedArgument _ _ _ _ _ _ _ before _ taken _ assigned _ _ _ only =>
    rw [taken.nextSite, assigned.nextSite]
    exact (only.append before.sites).of_perm (.of_eq (ArgumentList.sites_addNamed ..))
  | @positionalArgument _ _ before _ _ _ only =>
    exact (only.append before.sites).of_perm (ArgumentList.sites_addPositional ..)

end Cursor

/-! ## Sites of programs -/

namespace Cursor

theorem DerivesStatement.numbered {start final : Cursor} {statement : Statement}
    (derived : DerivesStatement start statement final) :
    Numbered start.nextSite final.nextSite [] statement.sites := by
  induction derived with
  | @ifThenElse _ _ _ _ _ _ _ _ condition thenBranch elseBranch taken _ decided _ parted _ _
      thenPart elsePart =>
    rw [taken.nextSite]
    have decided : Numbered _ _ [] condition.sites := decided.numbered
    have thenPart : Numbered _ _ [] thenBranch.sites := thenPart
    have middle := parted.nextSite ▸ decided.trans (thenPart.append condition.sites)
    have whole := middle.trans (elsePart.append (condition.sites ++ thenBranch.sites))
    refine whole.of_perm (.of_eq ?_)
    simp only [Statement.sites, Statement.parts, List.filterMap_append, Expr.sites]
  | @ifThen _ _ _ _ _ condition thenBranch taken _ decided _ _ thenPart =>
    rw [taken.nextSite]
    have decided : Numbered _ _ [] condition.sites := decided.numbered
    refine (decided.trans (thenPart.append condition.sites)).of_perm (.of_eq ?_)
    simp only [Statement.sites, Statement.parts, List.filterMap_append, Expr.sites]
  | assign taken _ assigned _ only =>
    rw [taken.nextSite, assigned.nextSite]
    exact only.numbered
  | expression _ _ _ only => exact only.numbered

theorem Ends.nextSite {cursor next : Cursor} (ended : cursor.Ends next) :
    cursor.nextSite = next.nextSite := by
  cases ended with
  | newline taken _ => exact taken.nextSite
  | finished _ => rfl

theorem DerivesAll.numbered {start final : Cursor} {statements : List Statement}
    (derived : DerivesAll start statements final) :
    Numbered start.nextSite final.nextSite [] (statements.flatMap Statement.sites) := by
  induction derived with
  | nil _ => exact .refl _ _
  | @cons _ _ _ _ statement rest _ first ended _ others =>
    have first : Numbered _ _ [] statement.sites := first.numbered
    rw [ended.nextSite] at first
    exact first.trans (others.append statement.sites)

theorem DerivesProgram.numbered {start final : Cursor} {program : Program}
    (derived : DerivesProgram start program.declaration program.statements final) :
    Numbered start.nextSite final.nextSite [] program.sites := by
  obtain ⟨version, declaration, statements, siteCount⟩ := program
  cases derived with
  | @declared _ _ _ _ _ _ _ call _ taken _ _ called ended others =>
    have place : start.nextSite = _ := taken.nextSite
    rw [place]
    have called : Numbered _ _ [] call.sites := called.numbered
    rw [ended.nextSite] at called
    exact called.trans (others.numbered.append call.sites)
  | undeclared _ only => exact only.numbered

end Cursor

theorem ofTokens_closed (tokens : List Token) : (Cursor.ofTokens tokens).Closed := by
  unfold Cursor.ofTokens
  split
  case h_1 last found =>
    split
    case h_1 isEnd => exact isEnd
    case h_2 => rfl
  case h_2 => rfl

theorem ofTokens_nextSite (tokens : List Token) : (Cursor.ofTokens tokens).nextSite = 0 := by
  unfold Cursor.ofTokens
  split
  · split <;> rfl
  · rfl

/-- A parser gives the numbers from zero away and counts them. The end-of-input token may stand
anywhere in the list: what is behind it is not read, and no number is given away there. -/
theorem numbered_of_parseTokens {tokens : List Token} {program : Program}
    (parsed : parseTokens tokens = .ok program) :
    Numbered 0 program.siteCount [] program.sites := by
  obtain ⟨⟨_, final⟩, accepted, same⟩ := of_bind_ok parsed
  cases same
  obtain ⟨derived, count⟩ := Cursor.of_program_ok (ofTokens_closed tokens) accepted
  have numbered := derived.numbered
  rwa [ofTokens_nextSite, ← count] at numbered

/-- The sites of a parsed program are the numbers up to its number of sites, each of them once. -/
theorem parseTokens_sites {tokens : List Token} {program : Program}
    (parsed : parseTokens tokens = .ok program) :
    program.sites.Perm (List.range program.siteCount) :=
  (numbered_of_parseTokens parsed).perm_range

/-- Has a declaration, an `if` without `else` whose line break is given back, a history reference
behind a dotted call, and calls in the arguments of others. -/
def sitedSource : String :=
  "indicator(title = \"T\", overlay = na(close))\nif close[1] > ta.sma(abs(close), 2)[1]\n" ++
    "  strategy.long(when = na(open))\nplot(1)"

theorem parseTokens_sites_sited :
    ∃ tokens program, tokenize sitedSource = .ok tokens ∧ parseTokens tokens = .ok program ∧
      program.siteCount = 9 ∧ program.sites.Perm (List.range 9) := by
  have reads : (tokenize sitedSource).toOption.any fun tokens =>
      (parseTokens tokens).toOption.any (·.siteCount = 9) := by decide +kernel
  obtain ⟨tokens, scanned, reads⟩ := of_toOption_any reads
  obtain ⟨program, parsed, count⟩ := of_toOption_any reads
  have count : program.siteCount = 9 := of_decide_eq_true count
  exact ⟨tokens, program, scanned, parsed, count, count ▸ parseTokens_sites parsed⟩

theorem exists_tokens_of_parse {source : String} {program : Program}
    (parsed : parse source = .ok program) : ∃ tokens, parseTokens tokens = .ok program := by
  unfold parse at parsed
  split at parsed
  case h_1 => cases parsed
  case h_2 tokens _ =>
    split at parsed
    case h_1 => cases parsed
    case h_2 found accepted =>
      cases parsed
      exact ⟨tokens, accepted⟩

/-- The sites of all expressions are sites of the program. Its declaration has one more. -/
theorem Program.sites_parts_sublist (program : Program) :
    (program.parts.filterMap Expr.site?).Sublist program.sites := by
  rw [Program.parts, List.filterMap_append, List.filterMap_flatMap, Program.sites]
  refine .append ?_ (.refl _)
  cases program.declaration with
  | none => exact .refl _
  | some declaration => exact List.sublist_cons_self _ _

/-- No two calls or history references of an expression share a site. -/
theorem sites_nodup_of_parse {source : String} {program : Program}
    (parsed : parse source = .ok program) {part : Expr} (within : part ∈ program.parts) :
    part.sites.Nodup := by
  obtain ⟨tokens, parsed⟩ := exists_tokens_of_parse parsed
  have all : program.sites.Nodup := (numbered_of_parseTokens parsed).nodup
  have own := (Program.parts_sublist within).filterMap Expr.site?
  exact all.sublist (own.trans program.sites_parts_sublist)

end ChartScript
