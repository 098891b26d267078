import SdkAudit.Proofs.Source.Checked
import SdkAudit.Proofs.Source.TokenEnds

/-!
# Reading by descent

The lexer is fed one character after the other and keeps what it is in the middle of in its mode.
The same tokens can be read by descent: comments are skipped by counting how deep they are nested,
literals and interpolations are skipped by calling each other.  Read in this way a text might lead
to a count below zero or to calls without end, so each such step is checked.

* `Cursor` — a place of a text and the text behind it;
* `Descent.blockComment`, `Descent.literal`, `Descent.body`, `Descent.hole`, `Descent.tokens` — the
  reading of comments, of literals and their interpolations, and of a whole text;
* `Descent.ahead` — **every call gets ahead in the text**.
-/

namespace SdkAudit

/-- A place of a text, and the text behind it. -/
structure Cursor where
  here : Place
  rest : List Char
deriving DecidableEq, Repr

/-- A cursor further on in the same text. -/
def Cursor.Ahead (cur next : Cursor) : Prop :=
  ∃ x, x ≠ [] ∧ cur.rest = x ++ next.rest ∧ next.here = cur.here.along x

namespace Cursor

theorem Ahead.length_lt {cur next : Cursor} (h : cur.Ahead next) :
    next.rest.length < cur.rest.length := by
  obtain ⟨x, hx, hrest, -⟩ := h
  have := List.length_pos_iff.2 hx
  rw [hrest, List.length_append]
  omega

theorem Ahead.trans {cur mid next : Cursor} (h : cur.Ahead mid) (h' : mid.Ahead next) :
    cur.Ahead next := by
  obtain ⟨x, hx, hrest, hhere⟩ := h
  obtain ⟨y, -, hrest', hhere'⟩ := h'
  refine ⟨x ++ y, by simp [hx], ?_, ?_⟩
  · rw [hrest, hrest', List.append_assoc]
  · rw [hhere', hhere, Place.along_append]

/-- A text that is not empty is got over. -/
theorem ahead_append (here : Place) {x : List Char} (hx : x ≠ []) (rest : List Char) :
    (Cursor.mk here (x ++ rest)).Ahead ⟨here.along x, rest⟩ :=
  ⟨x, hx, rfl, rfl⟩

theorem ahead_cons (here : Place) (c : Char) (rest : List Char) :
    (Cursor.mk here (c :: rest)).Ahead ⟨here.after c, rest⟩ :=
  ahead_append here (List.cons_ne_nil c []) rest

end Cursor

/-! ### The descent -/

namespace Descent

/-- Gets over a comment, which may hold comments.  The count is of those that are open. -/
def blockComment (depth : Nat) (here : Place) : List Char → Checked Cursor
  | [] => .error .refused
  | [_] => .error .refused
  | c :: d :: rest =>
    if c = '/' ∧ d = '*' then blockComment (depth + 1) ((here.after c).after d) rest
    else if c = '*' ∧ d = '/' then do
      let depth ← Checked.lower depth
      if depth = 0 then return ⟨(here.after c).after d, rest⟩
      else blockComment depth ((here.after c).after d) rest
    else blockComment depth (here.after c) (d :: rest)

mutual

/-- Gets over a literal from its opening quote, and tells its text, last character first. -/
def literal (flavor : Flavor) (raw : Bool) : (calls : Nat) → Cursor → Checked (List Char × Cursor)
  | 0, _ => .error .exhausted
  | _ + 1, ⟨_, []⟩ => .error .refused
  | calls + 1, ⟨here, quote :: rest⟩ =>
    if rest.take 2 = [quote, quote] then
      body flavor (.tripled flavor quote raw) calls []
        ⟨here.along [quote, quote, quote], rest.drop 2⟩
    else body flavor (.single quote raw) calls [] ⟨here.after quote, rest⟩

/-- Gets over the rest of a literal with its closing quotes, and tells its text. -/
def body (flavor : Flavor) (style : Quoting) :
    (calls : Nat) → List Char → Cursor → Checked (List Char × Cursor)
  | 0, _, _ => .error .exhausted
  | _ + 1, _, ⟨_, []⟩ => .error .refused
  | calls + 1, content, ⟨here, c :: rest⟩ =>
    if style.escapes ∧ c = '\\' then
      body flavor style calls (rest.head?.toList ++ content)
        ⟨here.along (c :: rest.head?.toList), rest.tail⟩
    else if c = style.quote then
      if !style.triple then .ok (content, ⟨here.after c, rest⟩)
      else if rest.take 2 = [c, c] then .ok (content, ⟨here.along [c, c, c], rest.drop 2⟩)
      else body flavor style calls (c :: content) ⟨here.after c, rest⟩
    else if c = '\n' ∧ !style.triple then .error .refused
    else if style.interpolates ∧ c = '$' ∧ rest.head? = some '\x7b' then do
      let next ← hole flavor calls 1 ⟨here.along [c, '\x7b'], rest.tail⟩
      body flavor style calls content next
    else body flavor style calls (c :: content) ⟨here.after c, rest⟩

/-- Gets over the rest of an interpolation with its closing brace.  The count is of the braces that
are open. -/
def hole (flavor : Flavor) : (calls : Nat) → (depth : Nat) → Cursor → Checked Cursor
  | 0, _, _ => .error .exhausted
  | _ + 1, _, ⟨_, []⟩ => .error .refused
  | calls + 1, depth, ⟨here, c :: rest⟩ =>
    if c = '"' ∨ c = '\'' then do
      let (_, next) ← literal flavor false calls ⟨here, c :: rest⟩
      hole flavor calls depth next
    else if c = '\x7b' then hole flavor calls (depth + 1) ⟨here.after c, rest⟩
    else if c = '\x7d' then do
      let depth ← Checked.lower depth
      if depth = 0 then return ⟨here.after c, rest⟩
      else hole flavor calls depth ⟨here.after c, rest⟩
    else hole flavor calls depth ⟨here.after c, rest⟩

end

/-- Gets over the rest of a name in back quotes, and tells the name, last character first. -/
def backQuoted (name : List Char) (here : Place) : List Char → Checked (List Char × Cursor)
  | [] => .error .refused
  | c :: rest =>
    if c = '\x60' then .ok (name, ⟨here.after c, rest⟩)
    else if c = '\n' then .error .refused
    else backQuoted (c :: name) (here.after c) rest

/-- Gets over the rest of a number. -/
def number (here : Place) : List Char → Cursor
  | [] => ⟨here, []⟩
  | c :: rest =>
    if isNumberPart c then number (here.after c) rest
    else if c = '.' ∧ rest.head?.any Char.isDigit then number (here.after c) rest
    else ⟨here, c :: rest⟩

/-- Gets over the characters that are such characters. -/
def past (isSuch : Char → Bool) (here : Place) (text : List Char) : Cursor :=
  ⟨here.along (text.takeWhile isSuch), text.dropWhile isSuch⟩

/-- The tokens from a cursor on. -/
def tokens (flavor : Flavor) : (calls : Nat) → Cursor → Checked (List Token)
  | 0, _ => .error .exhausted
  | _ + 1, ⟨_, []⟩ => .ok []
  | calls + 1, ⟨here, c :: rest⟩ =>
    if Text.isBlank c then tokens flavor calls ⟨here.after c, rest⟩
    else if c = '/' ∧ rest.head? = some '/' then
      tokens flavor calls (past (· != '\n') here (c :: rest))
    else if c = '/' ∧ rest.head? = some '*' then do
      let next ← blockComment 0 here (c :: rest)
      tokens flavor calls next
    else if c = '"' ∨ c = '\'' then do
      let (content, next) ← literal flavor false calls ⟨here, c :: rest⟩
      let more ← tokens flavor calls next
      return here.token (.text (String.ofList content.reverse)) next.here.offset :: more
    else if flavor = .dart ∧ c = 'r' ∧ (rest.head? = some '"' ∨ rest.head? = some '\'') then do
      let (content, next) ← literal flavor true calls ⟨here.after c, rest⟩
      let more ← tokens flavor calls next
      return here.token (.text (String.ofList content.reverse)) next.here.offset :: more
    else if flavor = .kotlin ∧ c = '\x60' then do
      let (name, next) ← backQuoted [] (here.after c) rest
      let more ← tokens flavor calls next
      return here.token (.name (String.ofList name.reverse)) next.here.offset :: more
    else if isNameStart c then do
      let name := (c :: rest).takeWhile isNamePart
      let next := past isNamePart here (c :: rest)
      let more ← tokens flavor calls next
      return here.token (.name (String.ofList name)) next.here.offset :: more
    else if c.isDigit then do
      let next := number here (c :: rest)
      let more ← tokens flavor calls next
      return here.token .number next.here.offset :: more
    else do
      let more ← tokens flavor calls ⟨here.after c, rest⟩
      return here.token (.sign c) (here.offset + 1) :: more

/-! ### Getting ahead -/

theorem ahead_three (here : Place) {c : Char} {rest : List Char} (h : rest.take 2 = [c, c]) :
    (Cursor.mk here (c :: rest)).Ahead ⟨here.along [c, c, c], rest.drop 2⟩ := by
  have hsplit : c :: rest = [c, c, c] ++ rest.drop 2 := by
    conv => lhs; rw [← List.take_append_drop 2 rest, h]
    rfl
  rw [hsplit]
  exact Cursor.ahead_append here (by simp) _

theorem ahead_two (here : Place) {c d : Char} {rest : List Char} (h : rest.head? = some d) :
    (Cursor.mk here (c :: rest)).Ahead ⟨here.along [c, d], rest.tail⟩ := by
  obtain ⟨tail, rfl⟩ := List.head?_eq_some_iff.1 h
  exact Cursor.ahead_append here (x := [c, d]) (by simp) tail

theorem ahead_escape (here : Place) (c : Char) (rest : List Char) :
    (Cursor.mk here (c :: rest)).Ahead ⟨here.along (c :: rest.head?.toList), rest.tail⟩ := by
  have hsplit : c :: rest = (c :: rest.head?.toList) ++ rest.tail := by
    cases rest <;> rfl
  rw [hsplit]
  exact Cursor.ahead_append here (by simp) _

/-- **Every call gets ahead in the text**, whether it is for a literal, for the rest of one or for
the rest of an interpolation. -/
theorem ahead (flavor : Flavor) (calls : Nat) :
    (∀ raw cur content next,
        literal flavor raw calls cur = .ok (content, next) → cur.Ahead next) ∧
      (∀ style content cur content' next,
        body flavor style calls content cur = .ok (content', next) → cur.Ahead next) ∧
      (∀ depth cur next, hole flavor calls depth cur = .ok next → cur.Ahead next) := by
  induction calls with
  | zero =>
    refine ⟨?_, ?_, ?_⟩
    · intro raw cur content next h
      cases h
    · intro style content cur content' next h
      cases h
    · intro depth cur next h
      cases h
  | succ calls ih =>
    obtain ⟨ihliteral, ihbody, ihhole⟩ := ih
    refine ⟨?_, ?_, ?_⟩
    · intro raw ⟨here, rest⟩ content next h
      cases rest with
      | nil => cases h
      | cons quote rest =>
        rw [literal] at h
        split at h
        case isTrue htriple => exact (ahead_three here htriple).trans (ihbody _ _ _ _ _ h)
        case isFalse => exact (Cursor.ahead_cons here quote rest).trans (ihbody _ _ _ _ _ h)
    · intro style content ⟨here, rest⟩ content' next h
      cases rest with
      | nil => cases h
      | cons c rest =>
        have hone := Cursor.ahead_cons here c rest
        rw [body] at h
        split at h
        · exact (ahead_escape here c rest).trans (ihbody _ _ _ _ _ h)
        split at h
        · split at h
          · cases h
            exact hone
          split at h
          case isTrue htriple =>
            cases h
            exact ahead_three here htriple
          case isFalse => exact hone.trans (ihbody _ _ _ _ _ h)
        split at h
        · cases h
        split at h
        case isTrue hopen =>
          cases hhole : hole flavor calls 1 ⟨here.along [c, '\x7b'], rest.tail⟩ with
          | error halt =>
            rw [hhole] at h
            cases h
          | ok mid =>
            rw [hhole] at h
            exact ((ahead_two here hopen.2.2).trans (ihhole _ _ _ hhole)).trans
              (ihbody _ _ _ _ _ h)
        case isFalse => exact hone.trans (ihbody _ _ _ _ _ h)
    · intro depth ⟨here, rest⟩ next h
      cases rest with
      | nil => cases h
      | cons c rest =>
        have hone := Cursor.ahead_cons here c rest
        rw [hole] at h
        split at h
        · cases hliteral : literal flavor false calls ⟨here, c :: rest⟩ with
          | error halt =>
            rw [hliteral] at h
            cases h
          | ok read =>
            rw [hliteral] at h
            exact (ihliteral _ _ _ _ hliteral).trans (ihhole _ _ _ h)
        split at h
        · exact hone.trans (ihhole _ _ _ h)
        split at h
        · cases depth with
          | zero => cases h
          | succ depth =>
            rw [Checked.lower_succ, Checked.ok_bind] at h
            split at h
            · cases h
              exact hone
            · exact hone.trans (ihhole _ _ _ h)
        · exact hone.trans (ihhole _ _ _ h)

theorem ahead_blockComment (depth : Nat) (here : Place) (text : List Char) (next : Cursor)
    (h : blockComment depth here text = .ok next) : (Cursor.mk here text).Ahead next := by
  induction hlength : text.length using Nat.strong_induction_on generalizing depth here text with
  | h length ih =>
    subst hlength
    rcases text with _ | ⟨c, _ | ⟨d, rest⟩⟩
    · cases h
    · cases h
    have hone := Cursor.ahead_cons here c (d :: rest)
    have htwo : (Cursor.mk here (c :: d :: rest)).Ahead ⟨(here.after c).after d, rest⟩ :=
      Cursor.ahead_append here (x := [c, d]) (by simp) rest
    rw [blockComment] at h
    split at h
    · exact htwo.trans (ih rest.length (by simp) _ _ _ h rfl)
    split at h
    · cases depth with
      | zero => cases h
      | succ depth =>
        rw [Checked.lower_succ, Checked.ok_bind] at h
        split at h
        · cases h
          exact htwo
        · exact htwo.trans (ih rest.length (by simp) _ _ _ h rfl)
    · exact hone.trans (ih (d :: rest).length (by simp) _ _ _ h rfl)

theorem length_backQuoted {name found : List Char} {here : Place} {text : List Char} {next : Cursor}
    (h : backQuoted name here text = .ok (found, next)) : next.rest.length < text.length := by
  induction text generalizing name here with
  | nil => cases h
  | cons c text ih =>
    rw [backQuoted] at h
    split at h
    · cases h
      simp
    split at h
    · cases h
    · exact (ih h).trans (by simp)

theorem length_number_le (here : Place) (text : List Char) :
    (number here text).rest.length ≤ text.length := by
  induction text generalizing here with
  | nil => exact le_rfl
  | cons c text ih =>
    rw [number]
    split
    · exact (ih _).trans (by simp)
    split
    · exact (ih _).trans (by simp)
    · exact le_rfl

end Descent

end SdkAudit
