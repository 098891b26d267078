import SdkAudit.Proofs.Nesting.Dyck
import SdkAudit.Proofs.Outline.Braces
import SdkAudit.Proofs.Outline.Segments

/-!
# Arguments by depth

The arguments of a call are told from the items of a nesting, where a group is one item whatever
stands in it.  They can also be told from the tokens alone: between the brackets of the call one
counts how many brackets are open, and cuts at the commas where none is.

* `cutAtCommas`, `commaPieces` — tokens, cut at the commas where no bracket is open;
* `Nesting.depth_eq_zero_iff` — **no bracket is open exactly where no pair is around**;
* `ItemTokens`, `forall₂_pieces` — **the pieces of a nesting are those of its tokens**;
* `ReadsAs`, `readsAs_argument` — what a piece is as an argument, told from its tokens;
* `arguments_tokenOutline` — **the arguments of every call are the pieces between its brackets**.
-/

namespace SdkAudit

open Nesting Outline

/-! ### Cutting by depth -/

/-- Cuts tokens at the commas where no bracket is open, if so many are open before them. -/
def cutAtCommas : Int → List Token → List (List Token)
  | _, [] => [[]]
  | opened, t :: rest =>
    if opened = 0 ∧ t.isSign ',' = true then [] :: cutAtCommas opened rest
    else (cutAtCommas (opened + t.rise) rest).modifyHead (t :: ·)

/-- The pieces between the commas where no bracket is open, without the empty ones. -/
def commaPieces (ts : List Token) : List (List Token) :=
  (cutAtCommas 0 ts).filter (!·.isEmpty)

theorem cutAtCommas_cons_of_ne {opened : Int} {t : Token}
    (h : ¬ (opened = 0 ∧ t.isSign ',' = true)) (rest : List Token) :
    cutAtCommas opened (t :: rest)
      = (cutAtCommas (opened + t.rise) rest).modifyHead (t :: ·) := by
  rw [cutAtCommas, if_neg h]

/-- Where a bracket is open, what is balanced is not cut. -/
theorem Balanced.cutAtCommas_append {inner : List Token} (h : Balanced inner) {opened : Int}
    (hopened : 0 < opened) (rest : List Token) :
    cutAtCommas opened (inner ++ rest) = (cutAtCommas opened rest).modifyHead (inner ++ ·) := by
  induction h generalizing opened rest with
  | nil => exact (modifyHead_nil_append _).symm
  | @token before t _ ht ih =>
    rw [List.append_assoc, ih hopened, List.singleton_append,
      cutAtCommas_cons_of_ne (by omega), Token.rise_none ht, Int.add_zero,
      List.modifyHead_modifyHead]
    simp [Function.comp_def]
  | @group before inner opener closer kind _ hopener _ hcloser ihb ihi =>
    rw [List.append_assoc, ihb hopened, List.cons_append, cutAtCommas_cons_of_ne (by omega),
      Token.rise_opening hopener, List.append_assoc, ihi (by omega), List.singleton_append,
      cutAtCommas_cons_of_ne (by omega), Token.rise_closing hcloser, Int.add_neg_cancel_right,
      List.modifyHead_modifyHead, List.modifyHead_modifyHead, List.modifyHead_modifyHead]
    simp [Function.comp_def]

/-- A group is not cut, and after it no more brackets are open than before it. -/
theorem cutAtCommas_group {inner : List Token} (h : Balanced inner) {opener closer : Token}
    {kind : Bracket} (hopener : opener.bracket? = some (.opening kind))
    (hcloser : closer.bracket? = some (.closing kind)) (rest : List Token) :
    cutAtCommas 0 (opener :: (inner ++ closer :: rest))
      = (cutAtCommas 0 rest).modifyHead ((opener :: (inner ++ [closer])) ++ ·) := by
  have hcomma : opener.isSign ',' = false := Token.isSign_of_bracket? hopener (by decide)
  rw [cutAtCommas_cons_of_ne (by simp [hcomma]), Token.rise_opening hopener,
    h.cutAtCommas_append (by omega), cutAtCommas_cons_of_ne (by omega),
    Token.rise_closing hcloser, List.modifyHead_modifyHead, List.modifyHead_modifyHead]
  simp [Function.comp_def]

theorem Encloses.extend {ts : List Token} {i m : Nat} (h : Encloses ts i m)
    (back : List Token) : Encloses (ts ++ back) i m := by
  obtain ⟨j, hpair, hi, hj⟩ := h
  exact ⟨j, hpair.behind back, hi, hj⟩

namespace Nesting

/-- A token that is no bracket stands where no bracket is open, or has a pair around it. -/
theorem depth_eq_zero_or {n : Nesting} (hn : n.IsProper) {m : Nat} {t : Token}
    (hm : n.tokens[m]? = some t) (ht : t.bracket? = none) :
    depth (n.tokens.take m) = 0 ∨ ∃ i, Encloses n.tokens i m := by
  induction n generalizing m with
  | empty => simp [tokens] at hm
  | token before u ih =>
    rw [tokens]
    rcases getElem?_append_eq_some hm with hbefore | ⟨j, rfl, hlast⟩
    · have hlt := (List.getElem?_eq_some_iff.1 hbefore).1
      rw [List.take_append_of_le_length hlt.le]
      exact (ih hn.1 hbefore).imp_right (Exists.imp fun _ hi => hi.extend [u])
    · obtain rfl : j = 0 := by simpa using (List.getElem?_eq_some_iff.1 hlast).1
      left
      rw [Nat.add_zero, List.take_left]
      exact hn.1.balanced.depth_eq
  | group before kind opener inner closer ihb _ =>
    rcases getElem?_tokens_group hm with hbefore | ⟨-, rfl⟩ | ⟨p, rfl, hinner⟩ | ⟨-, rfl⟩
    · have hlt := (List.getElem?_eq_some_iff.1 hbefore).1
      rw [tokens, List.take_append_of_le_length hlt.le]
      exact (ihb hn.1 hbefore).imp_right (Exists.imp fun _ hi => hi.extend _)
    · simp [hn.2.1] at ht
    · right
      have hlt := (List.getElem?_eq_some_iff.1 hinner).1
      exact ⟨before.tokens.length, _, hn.pairs, by omega, by omega⟩
    · simp [hn.2.2.2] at ht

/-- **No bracket is open exactly where no pair is around**, at every token that is no bracket. -/
theorem depth_eq_zero_iff {n : Nesting} (hn : n.IsProper) {m : Nat} {t : Token}
    (hm : n.tokens[m]? = some t) (ht : t.bracket? = none) :
    depth (n.tokens.take m) = 0 ↔ ¬ ∃ i, Encloses n.tokens i m := by
  constructor
  · rintro hdepth ⟨i, j, hpair, hi, hj⟩
    have hprefix := hn.balanced.depth_prefix i
    have hwithin := hpair.depth_within hi hj.le
    omega
  · exact (depth_eq_zero_or hn hm ht).resolve_right

end Nesting

/-! ### Pieces -/

/-- These tokens are those of some tokens and groups. -/
inductive ItemTokens : List Nesting.Item → List Token → Prop
  | nil : ItemTokens [] []
  | token {t : Token} {items : List Nesting.Item} {ts : List Token} :
      t.bracket? = none → ItemTokens items ts → ItemTokens (.token t :: items) (t :: ts)
  | group {kind : Bracket} {inner : Nesting} {opener closer : Token} {items : List Nesting.Item}
      {ts : List Token} :
      opener.bracket? = some (.opening kind) → inner.IsProper →
      closer.bracket? = some (.closing kind) → ItemTokens items ts →
      ItemTokens (.group kind inner :: items) (opener :: (inner.tokens ++ closer :: ts))

theorem itemTokens_itemsBefore {n : Nesting} (hn : n.IsProper) {more : List Nesting.Item}
    {ts : List Token} (h : ItemTokens more ts) :
    ItemTokens (n.itemsBefore more) (n.tokens ++ ts) := by
  induction n generalizing more ts with
  | empty => exact h
  | token before t ih =>
    rw [Nesting.tokens, List.append_assoc]
    exact ih hn.1 (.token hn.2 h)
  | group before kind opener inner closer ih _ =>
    obtain ⟨hb, hopener, hi, hcloser⟩ := hn
    rw [Nesting.tokens, List.append_assoc, List.cons_append, List.append_assoc]
    exact ih hb (.group hopener hi hcloser h)

/-- The items of a nesting have its tokens. -/
theorem itemTokens_items {n : Nesting} (hn : n.IsProper) : ItemTokens n.items n.tokens := by
  have := itemTokens_itemsBefore hn .nil
  rwa [List.append_nil] at this

theorem ItemTokens.isEmpty_eq {items : List Nesting.Item} {ts : List Token}
    (h : ItemTokens items ts) : items.isEmpty = ts.isEmpty := by
  cases h <;> rfl

theorem forall₂_modifyHead {α β : Type} {R : α → β → Prop} {f : α → α} {g : β → β}
    (hfg : ∀ x y, R x y → R (f x) (g y)) {xs : List α} {ys : List β} (h : List.Forall₂ R xs ys) :
    List.Forall₂ R (xs.modifyHead f) (ys.modifyHead g) := by
  cases h with
  | nil => exact .nil
  | cons hhead htail => exact .cons (hfg _ _ hhead) htail

/-- Cutting items at commas is cutting their tokens by depth. -/
theorem ItemTokens.forall₂_cut {items : List Nesting.Item} {ts : List Token}
    (h : ItemTokens items ts) :
    List.Forall₂ ItemTokens (Text.cutAt pieces.isComma items) (cutAtCommas 0 ts) := by
  induction h with
  | nil => exact .cons .nil .nil
  | @token t items ts ht _ ih =>
    rw [Text.cutAt_cons]
    by_cases hcomma : t.isSign ',' = true
    · rw [if_pos (show pieces.isComma (.token t) = true from hcomma), cutAtCommas,
        if_pos ⟨rfl, hcomma⟩]
      exact .cons .nil ih
    · rw [if_neg (show ¬ pieces.isComma (.token t) = true from hcomma),
        cutAtCommas_cons_of_ne (by simp [hcomma]), Token.rise_none ht]
      exact forall₂_modifyHead (fun _ _ => .token ht) ih
  | @group kind inner opener closer items ts hopener hinner hcloser _ ih =>
    rw [Text.cutAt_cons, if_neg (show ¬ pieces.isComma (.group kind inner) = true by
      simp [pieces.isComma]), cutAtCommas_group hinner.balanced hopener hcloser]
    refine forall₂_modifyHead (fun piece ts hpiece => ?_) ih
    have := ItemTokens.group hopener hinner hcloser hpiece
    simpa using this

/-- **The pieces of a nesting are those of its tokens.** -/
theorem forall₂_pieces {n : Nesting} (hn : n.IsProper) :
    List.Forall₂ ItemTokens (pieces n) (commaPieces n.tokens) := by
  refine List.rel_filter (fun items ts h => ?_) (itemTokens_items hn).forall₂_cut
  simp [h.isEmpty_eq]

/-! ### What a piece is -/

/-- The key that a piece of an object literal sets: the name or text at its head, if a colon follows
it. -/
def keyOf? : List Token → Option String
  | head :: colon :: _ =>
    match head.lexeme with
    | .name key | .text key => if colon.isSign ':' then some key else none
    | _ => none
  | _ => none

/-- A piece starts with a label: a name, and in Dart a colon, in Kotlin an equals sign that no other
one follows. -/
def HasLabel (flavor : Flavor) (piece : List Token) (label : String) : Prop :=
  ∃ head mark rest, piece = head :: mark :: rest ∧ head.name? = some label ∧
    match flavor with
    | .dart => mark.isSign ':' = true
    | .kotlin => mark.isSign '=' = true ∧ ∀ t, rest.head? = some t → t.isSign '=' = false

/-- A piece is a single pair of braces, with these tokens in it. -/
def IsBraced (piece inner : List Token) : Prop :=
  ∃ opener closer, piece = opener :: (inner ++ [closer]) ∧ opener.isSign '\x7b' = true ∧
    Balanced inner ∧ closer.isSign '\x7d' = true

/-- A piece is this argument. -/
structure ReadsAs (flavor : Flavor) (piece : List Token) (a : Argument) : Prop where
  named_iff : ∀ label, a = .named label ↔ HasLabel flavor piece label
  literal_iff : ∀ keys, a = .literal keys ↔
    flavor = .dart ∧ ∃ inner, IsBraced piece inner ∧ keys = (commaPieces inner).filterMap keyOf?

variable {flavor : Flavor} {piece : List Nesting.Item} {ts : List Token}

theorem literalKey?_eq_keyOf? (h : ItemTokens piece ts) : literalKey? piece = keyOf? ts := by
  cases h with
  | nil => rfl
  | @token head items ts hb hrest =>
    cases hrest with
    | nil => rfl
    | @token colon items ts hc hrest =>
      rw [literalKey?, keyOf?]
      cases head.lexeme <;> simp
    | @group kind inner opener closer items ts hopener hinner hcloser hrest =>
      have hcolon : opener.isSign ':' = false := Token.isSign_of_bracket? hopener (by decide)
      rw [keyOf?, hcolon]
      cases head.lexeme <;> rfl
  | @group kind inner opener closer items ts hopener hinner hcloser hrest =>
    obtain ⟨second, more, hmore⟩ : ∃ second more, inner.tokens ++ closer :: ts = second :: more :=
      List.exists_cons_of_ne_nil (by simp)
    rw [hmore, literalKey?, keyOf?]
    · cases hlexeme : opener.lexeme <;> simp [Token.bracket?, hlexeme] at hopener ⊢
    · simp

/-- The keys of an object literal are those of the pieces between its braces. -/
theorem literalKeys_eq_keysOf {n : Nesting} (hn : n.IsProper) :
    literalKeys n = (commaPieces n.tokens).filterMap keyOf? := by
  rw [literalKeys]
  have hall := forall₂_pieces hn
  generalize pieces n = held at hall ⊢
  generalize commaPieces n.tokens = cut at hall ⊢
  induction hall with
  | nil => rfl
  | cons hpiece _ ih =>
    rw [List.filterMap_cons, List.filterMap_cons, literalKey?_eq_keyOf? hpiece, ih]

theorem ItemTokens.startsWithEquals_eq (h : ItemTokens piece ts) :
    label?.startsWithEquals piece = ts.head?.any (·.isSign '=') := by
  cases h with
  | nil | token => rfl
  | group hopener _ _ _ =>
    exact (Token.isSign_of_bracket? hopener (by decide)).symm

/-- **The label of a piece** is told from its tokens. -/
theorem label?_eq_some_iff (h : ItemTokens piece ts) {label : String} :
    label? flavor piece = some label ↔ HasLabel flavor ts label := by
  cases h with
  | nil => simp [label?, HasLabel]
  | @token head items ts hb hrest =>
    cases hrest with
    | nil => simp [label?, HasLabel]
    | @token mark items ts hm hrest =>
      have hlabel : HasLabel flavor (head :: mark :: ts) label ↔ head.name? = some label ∧
          match flavor with
          | .dart => mark.isSign ':' = true
          | .kotlin => mark.isSign '=' = true ∧ ∀ t, ts.head? = some t → t.isSign '=' = false := by
        constructor
        · rintro ⟨_, _, _, heq, hname, hmark⟩
          cases heq
          exact ⟨hname, hmark⟩
        · rintro ⟨hname, hmark⟩
          exact ⟨_, _, _, rfl, hname, hmark⟩
      rw [hlabel]
      cases flavor with
      | dart =>
        show (if mark.isSign ':' = true then head.name? else none) = some label ↔ _
        split
        case isTrue hmark => simp [hmark]
        case isFalse hmark => simp [hmark]
      | kotlin =>
        show (if (mark.isSign '=' && !label?.startsWithEquals items) = true then head.name?
          else none) = some label ↔ _
        rw [hrest.startsWithEquals_eq]
        by_cases hmark : mark.isSign '=' = true <;> cases ts.head? <;> simp [hmark, and_comm]
    | @group kind inner opener closer items ts hopener hinner hcloser hrest =>
      have hcolon : opener.isSign ':' = false := Token.isSign_of_bracket? hopener (by decide)
      have hequals : opener.isSign '=' = false := Token.isSign_of_bracket? hopener (by decide)
      cases flavor <;> simp [label?, HasLabel, hcolon, hequals]
  | @group kind inner opener closer items ts hopener hinner hcloser hrest =>
    have hname := Token.name?_eq_none_of_bracket? hopener
    cases flavor <;> simp [label?, HasLabel, hname]

/-- **A single pair of braces** is a single group with braces. -/
theorem isBraced_iff (h : ItemTokens piece ts) {inner : List Token} :
    IsBraced ts inner ↔ ∃ n, n.IsProper ∧ piece = [.group .curly n] ∧ n.tokens = inner := by
  constructor
  · rintro ⟨opener, closer, rfl, hopener, hinner, hcloser⟩
    have hopener : opener.bracket? = some (.opening .curly) := Token.bracket?_eq_opening.2 hopener
    have hcloser : closer.bracket? = some (.closing .curly) := Token.bracket?_eq_closing.2 hcloser
    generalize hts : opener :: (inner ++ [closer]) = ts at h
    cases h with
    | nil => cases hts
    | token hb _ =>
      obtain ⟨rfl, -⟩ := List.cons.inj hts
      rw [hopener] at hb
      cases hb
    | @group kind n opener' closer' items ts hopener' hn hcloser' hrest =>
      obtain ⟨rfl, hmid⟩ := List.cons.inj hts
      obtain rfl : Bracket.curly = kind := by simpa [hopener] using hopener'
      have hle := length_le_of_balanced hmid hinner hcloser hn.balanced
      have hge := length_le_of_balanced hmid.symm hn.balanced hcloser' hinner
      obtain ⟨rfl, hlast⟩ := List.append_inj hmid (by omega)
      obtain ⟨-, rfl⟩ := List.cons.inj hlast
      cases hrest
      exact ⟨n, hn, rfl, rfl⟩
  · rintro ⟨n, -, rfl, rfl⟩
    cases h with
    | @group _ _ opener closer _ _ hopener hn hcloser hrest =>
      cases hrest
      exact ⟨opener, closer, rfl, Token.bracket?_eq_opening.1 hopener, hn.balanced,
        Token.bracket?_eq_closing.1 hcloser⟩

theorem argument_eq_named_iff {label : String} :
    argument flavor piece = .named label ↔ label? flavor piece = some label := by
  unfold argument
  cases label? flavor piece with
  | some found => simp
  | none =>
    simp only [reduceCtorEq, iff_false]
    split <;> simp

theorem argument_eq_literal_iff {keys : List String} :
    argument flavor piece = .literal keys ↔
      flavor = .dart ∧ ∃ n, piece = [.group .curly n] ∧ keys = literalKeys n := by
  constructor
  · intro h
    unfold argument at h
    split at h
    · cases h
    · split at h
      case h_1 n _ =>
        cases h
        exact ⟨rfl, n, rfl, rfl⟩
      case h_2 => cases h
  · rintro ⟨rfl, n, rfl, rfl⟩
    rfl

/-- **What a piece is as an argument** is told from its tokens. -/
theorem readsAs_argument (h : ItemTokens piece ts) : ReadsAs flavor ts (argument flavor piece) where
  named_iff := fun label => argument_eq_named_iff.trans (label?_eq_some_iff h)
  literal_iff := by
    intro keys
    rw [argument_eq_literal_iff]
    refine and_congr_right fun _ => ⟨?_, ?_⟩
    · rintro ⟨n, rfl, rfl⟩
      have hn : n.IsProper := by
        cases h
        assumption
      exact ⟨n.tokens, (isBraced_iff h).2 ⟨n, hn, rfl, rfl⟩, literalKeys_eq_keysOf hn⟩
    · rintro ⟨inner, hbraced, rfl⟩
      obtain ⟨n, hn, rfl, rfl⟩ := (isBraced_iff h).1 hbraced
      exact ⟨n, rfl, (literalKeys_eq_keysOf hn).symm⟩

/-- The tokens between two places. -/
def tokensBetween (ts : List Token) (i j : Nat) : List Token := (ts.take j).drop (i + 1)

theorem Nesting.Inside.tokensBetween_eq {i j : Nat} {kind : Bracket} {n : Nesting}
    (h : Inside ts i j kind n) : tokensBetween ts i j = n.tokens := by
  obtain ⟨-, before, after, opener, closer, rfl, rfl, rfl, -, -⟩ := h
  have hsplit : before ++ opener :: (n.tokens ++ closer :: after)
      = (before ++ [opener]) ++ (n.tokens ++ closer :: after) := by simp
  have hstop : before.length + n.tokens.length + 1
      = (before ++ [opener]).length + n.tokens.length := by
    simp only [List.length_append, List.length_singleton]
    omega
  have hstart : before.length + 1 = (before ++ [opener]).length := by simp
  rw [tokensBetween, hsplit, hstop, hstart, List.take_length_add_append, List.take_left,
    List.drop_left]

/-! ### The arguments of a call -/

theorem arguments_of_callAt? {before inner : Nesting} {after : List Token} {scope : ScopeId}
    {call : Call} (h : callAt? flavor before inner after scope = some call) :
    call.arguments = arguments flavor inner := by
  unfold callAt? at h
  split at h
  · cases h
  · split at h
    · cases h
    · cases h
      rfl

/-- Between the brackets of a group stands what is in it. -/
theorem inside_of_mem_groups {n : Nesting} (hn : n.IsProper) {g : Group} (hg : g ∈ n.groups) :
    Inside n.tokens g.index g.stop g.kind g.inner := by
  obtain ⟨later, hlater⟩ := tokens_eq_of_mem_groupsFrom hg
  obtain ⟨-, hopener, hinner, hcloser⟩ := proper_of_mem_groupsFrom hn hg
  exact ⟨hinner, g.earlier, later, g.opener, g.closer, hlater, rfl, rfl, hopener, hcloser⟩

/-- **The arguments of every call are the pieces between its brackets**, one by one.  These are cut
at the commas that no brackets in there are around. -/
theorem arguments_tokenOutline {source : String} {o : Outline}
    (h : Scan.tokenOutline flavor source = .ok o) :
    ∃ ts n, Lexer.tokens flavor source.toList = .ok ts ∧ Nesting.ofTokens ts = .ok n ∧
      (n.sitedCalls flavor).map Prod.snd = o.calls.toList ∧
      (∀ k call, (k, call) ∈ n.sitedCalls flavor → SignAt ts k '(' ∧
        ∃ j, SignAt ts j ')' ∧ Pairs ts k j ∧
          List.Forall₂ (ReadsAs flavor) (commaPieces (tokensBetween ts k j)) call.arguments) ∧
      ∀ inner, Balanced inner → ∀ m t, inner[m]? = some t → t.isSign ',' = true →
        (depth (inner.take m) = 0 ↔ ¬ ∃ i, Encloses inner i m) := by
  obtain ⟨ts, n, hlex, hread, rfl⟩ := tokenOutline_eq_ok_iff.1 h
  obtain ⟨hn, rfl⟩ := ofTokens_eq_ok_iff.1 hread
  refine ⟨n.tokens, n, hlex, hread, map_sitedCalls hn, ?_, ?_⟩
  · intro k call hmem
    obtain ⟨g, hg, rfl, hcall⟩ := exists_group_of_mem_sitedCalls hmem
    have hkind := (Group.call?_eq_some hcall).1
    have hinside := inside_of_mem_groups hn hg
    obtain ⟨t, u, kind, ht, hopener, hu, hcloser⟩ := hinside.pairs.exists_kind
    obtain rfl : kind = .round := by
      have hround := (proper_of_mem_groupsFrom hn hg).2.1
      rw [getElem?_index hg] at ht
      obtain rfl := Option.some.inj ht
      simpa [hkind, hopener] using hround
    refine ⟨⟨t, ht, Token.bracket?_eq_opening.1 hopener⟩, g.stop,
      ⟨u, hu, Token.bracket?_eq_closing.1 hcloser⟩, hinside.pairs, ?_⟩
    rw [Group.call?, if_pos hkind] at hcall
    rw [hinside.tokensBetween_eq, arguments_of_callAt? hcall, arguments, List.forall₂_map_right_iff]
    exact (forall₂_pieces hinside.1).flip.imp fun _ _ hpiece => readsAs_argument hpiece
  · intro inner hinner m t hm hcomma
    obtain ⟨n, hn, rfl⟩ := balanced_iff.1 hinner
    refine depth_eq_zero_iff hn hm ?_
    rw [Token.isSign_iff] at hcomma
    simp [Token.bracket?, hcomma]

/-- For instance where a list, a literal in a literal, and a label stand between the brackets. -/
theorem arguments_tokenOutline_literal :
    ∃ o ts n, Scan.tokenOutline .dart
        "f([1, 2], \x7ba: \x7bb: 1, c: 2\x7d, 'd': 3\x7d, e: g(4, 5),)" = .ok o ∧
      Nesting.ofTokens ts = .ok n ∧
      ∀ k call, (k, call) ∈ n.sitedCalls .dart → ∃ j, Pairs ts k j ∧
        List.Forall₂ (ReadsAs .dart) (commaPieces (tokensBetween ts k j)) call.arguments := by
  have hok : (Scan.tokenOutline .dart
      "f([1, 2], \x7ba: \x7bb: 1, c: 2\x7d, 'd': 3\x7d, e: g(4, 5),)").toOption.isSome = true := by
    decide +kernel
  obtain ⟨o, ho⟩ := Option.isSome_iff_exists.1 hok
  have ho := toOption_eq_some_iff.1 ho
  obtain ⟨ts, n, -, hread, -, hcalls, -⟩ := arguments_tokenOutline ho
  refine ⟨o, ts, n, ho, hread, fun k call hcall => ?_⟩
  obtain ⟨-, j, -, hpair, hall⟩ := hcalls k call hcall
  exact ⟨j, hpair, hall⟩

end SdkAudit
