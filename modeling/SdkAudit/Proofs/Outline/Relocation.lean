import SdkAudit.Proofs.Outline.Arena
import SdkAudit.Proofs.Outline.Chain

/-!
# Tokens at other places

An outline is made from what its tokens say.  Where they stand is only handed on to the calls.  So a
token sequence that says the same at other places has the same outline, with its calls at the other
places.

* `Relocation` — other places for the places there are;
* `Outline.ofNesting_relocate` — **outlines move with their tokens**;
* `numbered`, `Relocation.onto` — every token sequence is a relocation of its numbered lexemes;
* `ofTokens_eq_ok_iff_numbered` — so its nesting is that of its lexemes, relocated.
-/

namespace SdkAudit

/-- Other places for the places there are. -/
structure Relocation where
  position : Position → Position
  start : Nat → Nat
  stop : Nat → Nat

variable {r : Relocation} {flavor : Flavor}

def Token.relocate (r : Relocation) (t : Token) : Token :=
  ⟨t.lexeme, r.position t.position, r.start t.start, r.stop t.stop⟩

namespace Token

@[simp] theorem position_relocate (t : Token) :
    (t.relocate r).position = r.position t.position := rfl

@[simp] theorem name?_relocate (t : Token) : (t.relocate r).name? = t.name? := rfl

@[simp] theorem isSign_relocate (t : Token) (c : Char) : (t.relocate r).isSign c = t.isSign c := rfl

@[simp] theorem isName_relocate (t : Token) (word : String) :
    (t.relocate r).isName word = t.isName word := rfl

end Token

namespace Nesting

def relocate (r : Relocation) : Nesting → Nesting
  | .empty => .empty
  | .token before t => .token (before.relocate r) (t.relocate r)
  | .group before kind opener inner closer =>
    .group (before.relocate r) kind (opener.relocate r) (inner.relocate r) (closer.relocate r)

def Item.relocate (r : Relocation) : Item → Item
  | .token t => .token (t.relocate r)
  | .group kind inner => .group kind (inner.relocate r)

def Link.relocate (r : Relocation) (l : Link) : Link :=
  ⟨l.name, r.position l.position, l.before.relocate r⟩

theorem tokens_relocate (n : Nesting) :
    (n.relocate r).tokens = n.tokens.map (Token.relocate r) := by
  induction n with
  | empty => rfl
  | token before t ih => simp [relocate, tokens, ih]
  | group before kind opener inner closer ihb ihi => simp [relocate, tokens, ihb, ihi]

theorem IsProper.relocate {n : Nesting} (h : n.IsProper) : (n.relocate r).IsProper := by
  induction n with
  | empty => trivial
  | token before t ih => exact ⟨ih h.1, h.2⟩
  | group before kind opener inner closer ihb ihi =>
    exact ⟨ihb h.1, h.2.1, ihi h.2.2.1, h.2.2.2⟩

theorem ofTokens_relocate {ts : List Token} {n : Nesting} (h : ofTokens ts = .ok n) :
    ofTokens (ts.map (Token.relocate r)) = .ok (n.relocate r) := by
  obtain ⟨hn, rfl⟩ := ofTokens_eq_ok_iff.1 h
  exact ofTokens_eq_ok_iff.2 ⟨hn.relocate, tokens_relocate n⟩

theorem last?_relocate (n : Nesting) : (n.relocate r).last? = n.last?.map (Token.relocate r) := by
  cases n <;> rfl

theorem itemsBefore_relocate (n : Nesting) (more : List Item) :
    (n.relocate r).itemsBefore (more.map (Item.relocate r))
      = (n.itemsBefore more).map (Item.relocate r) := by
  induction n generalizing more with
  | empty => rfl
  | token before t ih => exact ih (.token t :: more)
  | group before kind opener inner closer ihb _ => exact ihb (.group kind inner :: more)

theorem items_relocate (n : Nesting) : (n.relocate r).items = n.items.map (Item.relocate r) :=
  itemsBefore_relocate n []

end Nesting

open Nesting

theorem Text.cutAt_map {α β : Type} (isMark : β → Bool) (f : α → β) (l : List α) :
    Text.cutAt isMark (l.map f) = (Text.cutAt (isMark ∘ f) l).map (List.map f) := by
  induction l with
  | nil => rfl
  | cons x rest ih =>
    simp only [List.map_cons, Text.cutAt, ih]
    cases Text.cutAt (isMark ∘ f) rest with
    | nil => rfl
    | cons piece pieces =>
      by_cases h : isMark (f x) <;> simp [h]

def Call.relocate (r : Relocation) (call : Call) : Call :=
  { call with position := r.position call.position }

namespace Outline

/-! ### Calls move with their tokens -/

theorem pieces_relocate (n : Nesting) :
    pieces (n.relocate r) = (pieces n).map (List.map (Nesting.Item.relocate r)) := by
  have hcomma : pieces.isComma ∘ Nesting.Item.relocate r = pieces.isComma := by
    funext item
    cases item <;> rfl
  rw [pieces, items_relocate, Text.cutAt_map, hcomma, List.filter_map, pieces]
  congr 2
  funext piece
  simp

theorem literalKey?_relocate (piece : List Nesting.Item) :
    literalKey? (piece.map (Nesting.Item.relocate r)) = literalKey? piece := by
  match piece with
  | [] | [.token _] | .group _ _ :: _ | .token _ :: .group _ _ :: _ => rfl
  | .token head :: .token colon :: rest => rfl

theorem literalKeys_relocate (n : Nesting) : literalKeys (n.relocate r) = literalKeys n := by
  rw [literalKeys, pieces_relocate, List.filterMap_map, literalKeys]
  congr 1
  funext piece
  exact literalKey?_relocate piece

theorem label?_relocate (piece : List Nesting.Item) :
    label? flavor (piece.map (Nesting.Item.relocate r)) = label? flavor piece := by
  match piece with
  | [] | [.token _] | .group _ _ :: _ | .token _ :: .group _ _ :: _ => rfl
  | .token head :: .token mark :: rest =>
    have hequals : label?.startsWithEquals (rest.map (Nesting.Item.relocate r))
        = label?.startsWithEquals rest := by
      match rest with
      | [] | .token _ :: _ | .group _ _ :: _ => rfl
    simp only [List.map_cons, Nesting.Item.relocate, label?, hequals]
    rfl

theorem argument_relocate (piece : List Nesting.Item) :
    argument flavor (piece.map (Nesting.Item.relocate r)) = argument flavor piece := by
  unfold argument
  rw [label?_relocate]
  cases label? flavor piece with
  | some label => rfl
  | none =>
    match flavor, piece with
    | .dart, [.group .curly inner] =>
      exact congrArg Argument.literal (literalKeys_relocate inner)
    | .kotlin, _ => rfl
    | .dart, [] | .dart, .token _ :: _ => rfl
    | .dart, [.group .round _] | .dart, [.group .square _] => rfl
    | .dart, .group kind _ :: _ :: _ => cases kind <;> rfl

theorem arguments_relocate (n : Nesting) :
    arguments flavor (n.relocate r) = arguments flavor n := by
  rw [arguments, pieces_relocate, List.map_map, arguments]
  congr 1
  funext piece
  exact argument_relocate piece

theorem guards_relocate (n : Nesting) : guards flavor (n.relocate r) = guards flavor n := by
  cases n with
  | empty => rfl
  | token before t => simp [relocate, guards, last?_relocate, Option.any_map]
  | group before kind opener inner closer =>
    cases kind <;> simp [relocate, guards, last?_relocate, Option.any_map]

theorem named?_relocate (n : Nesting) :
    (n.relocate r).named? = n.named?.map (Nesting.Link.relocate r) := by
  cases n with
  | empty | group => rfl
  | token before t =>
    simp only [Nesting.relocate, named?, Token.name?_relocate, Option.map_map]
    rfl

theorem marked?_relocate (n : Nesting) :
    (n.relocate r).marked? = n.marked?.map (Nesting.Link.relocate r) := by
  cases n with
  | empty | group => rfl
  | token rest mark =>
    simp only [Nesting.relocate, marked?, Token.isSign_relocate, named?_relocate]
    split_ifs <;> rfl

theorem link?_relocate (n : Nesting) :
    (n.relocate r).link? = n.link?.map (Nesting.Link.relocate r) := by
  cases n with
  | empty | group => rfl
  | token rest dot =>
    simp only [Nesting.relocate, link?, Token.isSign_relocate, named?_relocate, marked?_relocate]
    split_ifs
    · cases rest.named? <;> rfl
    · rfl

theorem endsWithDot_relocate (n : Nesting) : (n.relocate r).endsWithDot = n.endsWithDot := by
  cases n <;> rfl

def Chain.relocate (r : Relocation) (chain : Chain) : Chain :=
  { chain with position := r.position chain.position, before := chain.before.relocate r }

theorem chainFrom_relocate (names : List String) (position : Position) (n : Nesting) :
    chainFrom names (r.position position) (n.relocate r)
      = (chainFrom names position n).relocate r := by
  induction n using Nesting.link_induction generalizing names position with
  | link n l hlink ih =>
    have hlink' : (n.relocate r).link? = some (l.relocate r) := by rw [link?_relocate, hlink]; rfl
    rw [chainFrom_of_link hlink', chainFrom_of_link hlink]
    exact ih (l.name :: names) l.position
  | last n hlink =>
    have hlink' : (n.relocate r).link? = none := by rw [link?_relocate, hlink]; rfl
    rw [chainFrom_of_last hlink', chainFrom_of_last hlink, endsWithDot_relocate]
    rfl

theorem chainEnding?_relocate (n : Nesting) :
    chainEnding? (n.relocate r) = (chainEnding? n).map (Chain.relocate r) := by
  cases n with
  | empty | group => rfl
  | token before t =>
    simp only [Nesting.relocate, chainEnding?, Token.name?_relocate]
    cases t.name? with
    | none => rfl
    | some name =>
      by_cases hword : controlWords.contains name = true
      · simp only [if_pos hword, Option.map_none]
      · simp only [if_neg hword, Option.map_some, Token.position_relocate, chainFrom_relocate]

theorem opensBody_relocate (after : List Token) :
    opensBody (after.map (Token.relocate r)) = opensBody after := by
  match after with
  | [] | [_] | _ :: _ :: _ => rfl

theorem isDeclaration_relocate (chain : Chain) (after : List Token) :
    isDeclaration flavor (chain.relocate r) (after.map (Token.relocate r))
      = isDeclaration flavor chain after := by
  simp only [isDeclaration, Chain.relocate, last?_relocate, opensBody_relocate]
  cases chain.before.last? <;> rfl

theorem callAt?_relocate (before inner : Nesting) (after : List Token) (scope : ScopeId) :
    callAt? flavor (before.relocate r) (inner.relocate r) (after.map (Token.relocate r)) scope
      = (callAt? flavor before inner after scope).map (Call.relocate r) := by
  simp only [callAt?, chainEnding?_relocate]
  cases chainEnding? before with
  | none => rfl
  | some chain =>
    have hsame : (chain.relocate r).onExpression = chain.onExpression := rfl
    simp only [Option.map_some, isDeclaration_relocate, arguments_relocate, hsame]
    split_ifs <;> rfl

def relocate (r : Relocation) (o : Outline) : Outline :=
  { o with calls := o.calls.map (Call.relocate r) }

theorem isGuarded_relocate (o : Outline) (id : ScopeId) :
    (o.relocate r).isGuarded id = o.isGuarded id := by
  have hscopes : (o.relocate r).scopes = o.scopes := rfl
  exact isGuarded_congr hscopes id

/-- **Outlines move with their tokens.** -/
theorem addNesting_relocate (scope : ScopeId) (o : Outline) (after : List Token) (n : Nesting) :
    addNesting flavor scope (o.relocate r) (after.map (Token.relocate r)) (n.relocate r)
      = (addNesting flavor scope o after n).relocate r := by
  induction n generalizing scope o after with
  | empty => rfl
  | token before t ih => exact ih scope o (t :: after)
  | group before kind opener inner closer ihb ihi =>
    have hbefore := ihb scope o [opener]
    simp only [Nesting.relocate, addNesting]
    simp only [List.map_cons, List.map_nil] at hbefore
    rw [hbefore]
    cases kind with
    | square => exact ihi scope _ []
    | curly =>
      simp only [guards_relocate]
      exact ihi _ (((addNesting flavor scope o [opener] before).addScope _ scope)) []
    | round =>
      simp only [callAt?_relocate]
      cases callAt? flavor before inner after scope with
      | none => exact ihi scope _ []
      | some call =>
        have hadd : ∀ b : Outline, (b.relocate r).addCall (call.relocate r)
            = (b.addCall call).relocate r := by
          intro b
          simp [addCall, relocate]
        simp only [Option.map_some, hadd]
        exact ihi scope _ []

theorem ofNesting_relocate (n : Nesting) :
    ofNesting flavor (n.relocate r) = (ofNesting flavor n).relocate r := by
  have hempty : Outline.relocate r {} = {} := by simp [relocate]
  have hadd : addNesting flavor fileScope (Outline.relocate r {}) [] (n.relocate r) = _ :=
    addNesting_relocate fileScope {} [] n
  rwa [hempty] at hadd

end Outline

/-! ### Numbered lexemes -/

/-- The lexemes as tokens that stand at their numbers. -/
def numbered (lexemes : List Lexeme) : List Token :=
  lexemes.mapIdx fun i lexeme => ⟨lexeme, ⟨0, i⟩, i, i⟩

/-- From numbers to the places of these tokens. -/
def Relocation.onto (ts : List Token) : Relocation where
  position p := (ts[p.column]?.map (·.position)).getD p
  start i := (ts[i]?.map (·.start)).getD i
  stop i := (ts[i]?.map (·.stop)).getD i

/-- Every token sequence is a relocation of its numbered lexemes. -/
theorem map_relocate_numbered (ts : List Token) :
    (numbered (ts.map Token.lexeme)).map (Token.relocate (.onto ts)) = ts := by
  refine List.ext_getElem? fun i => ?_
  cases h : ts[i]? with
  | none => simp [numbered, h]
  | some t => simp [numbered, h, Token.relocate, Relocation.onto]

/-- Brackets match by what they say. -/
theorem Balanced.of_lexemes {ts us : List Token} (h : Balanced ts)
    (hsame : us.map Token.lexeme = ts.map Token.lexeme) : Balanced us := by
  have hbracket : ∀ {t u : Token}, u.lexeme = t.lexeme → u.bracket? = t.bracket? := by
    intro t u h
    rw [Token.bracket?, h, Token.bracket?]
  induction h generalizing us with
  | nil =>
    rw [List.map_eq_nil_iff.1 hsame]
    exact .nil
  | @token before t _ ht ih =>
    rw [List.map_append] at hsame
    obtain ⟨us₁, us₂, rfl, h₁, h₂⟩ := List.map_eq_append_iff.1 hsame
    obtain ⟨u, rfl, hu⟩ := List.map_eq_singleton_iff.1 h₂
    exact .token (ih h₁) ((hbracket hu).trans ht)
  | @group before inner opener closer kind _ hopener _ hcloser ihb ihi =>
    rw [List.map_append, List.map_cons, List.map_append] at hsame
    obtain ⟨us₁, us₂, rfl, h₁, h₂⟩ := List.map_eq_append_iff.1 hsame
    obtain ⟨o, us₃, rfl, ho, h₃⟩ := List.map_eq_cons_iff.1 h₂
    obtain ⟨us₄, us₅, rfl, h₄, h₅⟩ := List.map_eq_append_iff.1 h₃
    obtain ⟨c, rfl, hc⟩ := List.map_eq_singleton_iff.1 h₅
    exact .group kind (ihb h₁) ((hbracket ho).trans hopener) (ihi h₄) ((hbracket hc).trans hcloser)

/-- A token sequence can be read elsewhere if it can be read at all, and comes to the same. -/
theorem ofTokens_map_relocate {ts : List Token} {m : Nesting} :
    ofTokens (ts.map (Token.relocate r)) = .ok m ↔ ∃ n, ofTokens ts = .ok n ∧ n.relocate r = m := by
  constructor
  · intro h
    obtain ⟨hm, htokens⟩ := ofTokens_eq_ok_iff.1 h
    have hbalanced : Balanced ts := by
      refine hm.balanced.of_lexemes ?_
      rw [htokens, List.map_map]
      rfl
    obtain ⟨n, hn, hnt⟩ := balanced_iff.1 hbalanced
    have hread := ofTokens_eq_ok_iff.2 ⟨hn, hnt⟩
    rw [ofTokens_relocate hread] at h
    exact ⟨n, hread, Except.ok.inj h⟩
  · rintro ⟨n, hn, rfl⟩
    exact ofTokens_relocate hn

/-- A token sequence can be read if its numbered lexemes can, and comes to the same elsewhere. -/
theorem ofTokens_eq_ok_iff_numbered {ts : List Token} {n : Nesting} :
    ofTokens ts = .ok n ↔ ∃ k, ofTokens (numbered (ts.map Token.lexeme)) = .ok k ∧
      k.relocate (.onto ts) = n := by
  rw [← ofTokens_map_relocate, map_relocate_numbered]

end SdkAudit
