import ServiceScript.Proofs.Json.Token

/-!
# ServiceScript — JSON values

The tokens of a text are read into a **value** by a machine with a stack. The
stack has a frame for each bracket that is open, with what has been read in it;
beside it the machine knows what may come next. The members of an object are kept
as they are read, in their order and with repetitions, so that a value shows what
the text has in this respect.

Main definitions:

* `Json.tokens` — the tokens of a value;
* `Json.parse?` — the value that tokens are read as;
* `Json.decode?` — the value of a text.

Main results:

* `Json.parse?_eq_some_iff` — tokens are read as a value if they are its tokens;
* `Json.Written.decode?_eq` — a text is decoded to the value whose tokens are
  written in it.
-/

namespace ServiceScript

inductive Json where
  | string (t : Text)
  | array (items : List Json)
  | object (members : List (Text × Json))

namespace Json

/-- An item is smaller than its array. -/
theorem sizeOf_lt_array {items : List Json} {v : Json} (h : v ∈ items) :
    sizeOf v < sizeOf (Json.array items) := by
  have hmem := List.sizeOf_lt_of_mem h
  rw [Json.array.sizeOf_spec]
  omega

/-- The value of a member is smaller than its object. -/
theorem sizeOf_lt_object {members : List (Text × Json)} {m : Text × Json} (h : m ∈ members) :
    sizeOf m.2 < sizeOf (Json.object members) := by
  have hmem := List.sizeOf_lt_of_mem h
  obtain ⟨name, v⟩ := m
  rw [Prod.mk.sizeOf_spec] at hmem
  rw [Json.object.sizeOf_spec]
  dsimp only
  omega

/-- What holds of a value if it holds of the values in it holds of every value. -/
@[elab_as_elim]
theorem induct {P : Json → Prop} (string : ∀ t, P (.string t))
    (array : ∀ items, (∀ v ∈ items, P v) → P (.array items))
    (object : ∀ members : List (Text × Json), (∀ m ∈ members, P m.2) → P (.object members)) :
    ∀ v, P v
  | .string t => string t
  | .array items => array items fun v _ => induct string array object v
  | .object members => object members fun m _ => induct string array object m.2
termination_by v => sizeOf v
decreasing_by
  · exact sizeOf_lt_array ‹_›
  · exact sizeOf_lt_object ‹_›

-- ---------------------------------------------------------------------------
-- The tokens of a value
-- ---------------------------------------------------------------------------

/-- Lists one behind another, with a separator between each two. -/
def separated {α : Type} (separator : α) : List (List α) → List α
  | [] => []
  | first :: rest => first ++ rest.flatMap (separator :: ·)

def tokens : Json → List Token
  | .string t => [.string t]
  | .array items =>
    .openArray :: separated .comma (items.map fun v => v.tokens) ++ [.closeArray]
  | .object members =>
    .openObject ::
      separated .comma (members.map fun m => .string m.1 :: .colon :: m.2.tokens) ++
      [.closeObject]
termination_by v => sizeOf v
decreasing_by
  · exact sizeOf_lt_array ‹_›
  · exact sizeOf_lt_object ‹_›

def memberTokens (m : Text × Json) : List Token := .string m.1 :: .colon :: m.2.tokens

@[simp] theorem tokens_string (t : Text) : (Json.string t).tokens = [.string t] := by rw [tokens]

/-- The tokens of an array are those of its items between brackets, with commas. -/
theorem tokens_array (items : List Json) :
    (Json.array items).tokens =
      .openArray :: separated .comma (items.map tokens) ++ [.closeArray] := by
  rw [tokens]

/-- The tokens of an object are those of its members between braces, with commas. -/
theorem tokens_object (members : List (Text × Json)) :
    (Json.object members).tokens =
      .openObject :: separated .comma (members.map memberTokens) ++ [.closeObject] := by
  rw [tokens]
  rfl

-- ---------------------------------------------------------------------------
-- Reading tokens
-- ---------------------------------------------------------------------------

/-- A bracket that is open, with what has been read in it. -/
inductive Frame where
  | array (items : List Json)
  -- the last name still has no value
  | object (members : List (Text × Json)) (name : Text)

/-- What a reader awaits. -/
inductive Awaited where
  | value
  -- a value, or the end of an array that has none
  | firstItem
  -- a name, or the end of an object that has none
  | firstName
  -- the name of one more member
  | nextName (members : List (Text × Json))
  | colon (members : List (Text × Json)) (name : Text)
  -- what may come behind a value
  | further (v : Json)

structure Reader where
  frames : List Frame
  awaited : Awaited

namespace Reader

def start : Reader := ⟨[], .value⟩

/-- Reads the first token of a value. -/
def enter (frames : List Frame) : Token → Option Reader
  | .string t => some ⟨frames, .further (.string t)⟩
  | .openArray => some ⟨frames, .firstItem⟩
  | .openObject => some ⟨frames, .firstName⟩
  | _ => none

/-- Reads the token behind a value, in the innermost bracket. -/
def leave (v : Json) : List Frame → Token → Option Reader
  | .array items :: frames, .comma => some ⟨.array (items ++ [v]) :: frames, .value⟩
  | .array items :: frames, .closeArray => some ⟨frames, .further (.array (items ++ [v]))⟩
  | .object members name :: frames, .comma => some ⟨frames, .nextName (members ++ [(name, v)])⟩
  | .object members name :: frames, .closeObject =>
    some ⟨frames, .further (.object (members ++ [(name, v)]))⟩
  | _, _ => none

/-- Reads one token, if it may come. -/
def step (r : Reader) (tok : Token) : Option Reader :=
  match r.awaited, tok with
  | .value, tok => enter r.frames tok
  | .firstItem, .closeArray => some ⟨r.frames, .further (.array [])⟩
  | .firstItem, tok => enter (.array [] :: r.frames) tok
  | .firstName, .closeObject => some ⟨r.frames, .further (.object [])⟩
  | .firstName, .string name => some ⟨r.frames, .colon [] name⟩
  | .nextName members, .string name => some ⟨r.frames, .colon members name⟩
  | .colon members name, .colon => some ⟨.object members name :: r.frames, .value⟩
  | .further v, tok => leave v r.frames tok
  | _, _ => none

def run (r : Reader) (ts : List Token) : Option Reader := ts.foldlM step r

end Reader

/-- The value that tokens are read as, if there is no token missing and none left. -/
def parse? (ts : List Token) : Option Json :=
  match Reader.start.run ts with
  | some ⟨[], .further v⟩ => some v
  | _ => none

/-- The value of a JSON text. -/
def decode? (t : Text) : Option Json := (tokens? t).bind parse?

-- ---------------------------------------------------------------------------
-- A value is read
-- ---------------------------------------------------------------------------

namespace Reader

/-- A reader that reads a token goes on with the rest. -/
theorem run_cons_of_step {r r' : Reader} {tok : Token} (h : r.step tok = some r')
    (ts : List Token) : r.run (tok :: ts) = r'.run ts := by
  rw [run, List.foldlM_cons, h]
  rfl

/-- A reader that reads some tokens goes on with those behind them. -/
theorem run_append_of_run {r r' : Reader} {ts : List Token} (h : r.run ts = some r')
    (us : List Token) : r.run (ts ++ us) = r'.run us := by
  unfold run at h ⊢
  rw [List.foldlM_append, h]
  rfl

/-- A reader that goes on from before a value to behind it. -/
def Takes (v : Json) : Prop :=
  ∀ frames, run ⟨frames, .value⟩ v.tokens = some ⟨frames, .further v⟩

/-- No value starts with the end of an array. -/
theorem run_firstItem (frames : List Frame) (v : Json) (ts : List Token) :
    run ⟨frames, .firstItem⟩ (v.tokens ++ ts) =
      run ⟨.array [] :: frames, .value⟩ (v.tokens ++ ts) := by
  cases v <;> rw [tokens] <;> rfl

/-- Behind an item, the further ones and the end of the array are read into the array.
-/
theorem run_furtherItems {items : List Json} (h : ∀ v ∈ items, Takes v) (frames : List Frame)
    (before : List Json) (v : Json) :
    run ⟨.array before :: frames, .further v⟩
        ((items.map tokens).flatMap (.comma :: ·) ++ [.closeArray]) =
      some ⟨frames, .further (.array (before ++ v :: items))⟩ := by
  induction items generalizing before v with
  | nil => rfl
  | cons w rest ih =>
    obtain ⟨hw, hrest⟩ := List.forall_mem_cons.1 h
    have hcomma : step ⟨.array before :: frames, .further v⟩ .comma =
        some ⟨.array (before ++ [v]) :: frames, .value⟩ := rfl
    rw [List.map_cons, List.flatMap_cons, List.cons_append, List.cons_append,
      run_cons_of_step hcomma, List.append_assoc, run_append_of_run (hw _), ih hrest,
      List.append_assoc]
    rfl

/-- Behind a member, the further ones and the end of the object are read into the
object. -/
theorem run_furtherMembers {members : List (Text × Json)} (h : ∀ m ∈ members, Takes m.2)
    (frames : List Frame) (before : List (Text × Json)) (name : Text) (v : Json) :
    run ⟨.object before name :: frames, .further v⟩
        ((members.map memberTokens).flatMap (.comma :: ·) ++ [.closeObject]) =
      some ⟨frames, .further (.object (before ++ (name, v) :: members))⟩ := by
  induction members generalizing before name v with
  | nil => rfl
  | cons m rest ih =>
    obtain ⟨hm, hrest⟩ := List.forall_mem_cons.1 h
    have hcomma : step ⟨.object before name :: frames, .further v⟩ .comma =
        some ⟨frames, .nextName (before ++ [(name, v)])⟩ := rfl
    have hname : step ⟨frames, .nextName (before ++ [(name, v)])⟩ (.string m.1) =
        some ⟨frames, .colon (before ++ [(name, v)]) m.1⟩ := rfl
    have hcolon : step ⟨frames, .colon (before ++ [(name, v)]) m.1⟩ .colon =
        some ⟨.object (before ++ [(name, v)]) m.1 :: frames, .value⟩ := rfl
    rw [List.map_cons, List.flatMap_cons, memberTokens]
    simp only [List.cons_append]
    rw [run_cons_of_step hcomma, run_cons_of_step hname, run_cons_of_step hcolon,
      List.append_assoc, run_append_of_run (hm _), ih hrest, List.append_assoc]
    rfl

/-- An array is read if its items are. -/
theorem takes_array {items : List Json} (h : ∀ v ∈ items, Takes v) : Takes (.array items) := by
  intro frames
  have hopen : step ⟨frames, .value⟩ .openArray = some ⟨frames, .firstItem⟩ := rfl
  rw [tokens_array, List.cons_append, run_cons_of_step hopen]
  cases items with
  | nil => rfl
  | cons v rest =>
    obtain ⟨hv, hrest⟩ := List.forall_mem_cons.1 h
    rw [List.map_cons, separated, List.append_assoc, run_firstItem, run_append_of_run (hv _),
      run_furtherItems hrest]
    rfl

/-- An object is read if the values of its members are. -/
theorem takes_object {members : List (Text × Json)} (h : ∀ m ∈ members, Takes m.2) :
    Takes (.object members) := by
  intro frames
  have hopen : step ⟨frames, .value⟩ .openObject = some ⟨frames, .firstName⟩ := rfl
  rw [tokens_object, List.cons_append, run_cons_of_step hopen]
  cases members with
  | nil => rfl
  | cons m rest =>
    obtain ⟨hm, hrest⟩ := List.forall_mem_cons.1 h
    have hname : step ⟨frames, .firstName⟩ (.string m.1) = some ⟨frames, .colon [] m.1⟩ := rfl
    have hcolon : step ⟨frames, .colon [] m.1⟩ .colon =
        some ⟨.object [] m.1 :: frames, .value⟩ := rfl
    rw [List.map_cons, separated, memberTokens]
    simp only [List.cons_append]
    rw [run_cons_of_step hname, run_cons_of_step hcolon, List.append_assoc,
      run_append_of_run (hm _), run_furtherMembers hrest]
    rfl

/-- Every value is read from its tokens. -/
theorem takes (v : Json) : Takes v := by
  induction v using induct with
  | string t =>
    intro frames
    rw [tokens_string]
    rfl
  | array items ih => exact takes_array ih
  | object members ih => exact takes_object ih

end Reader

-- ---------------------------------------------------------------------------
-- Nothing but a value is read
-- ---------------------------------------------------------------------------

/-- The tokens that have been read in a frame, from its bracket on. -/
def Frame.tokens : Frame → List Token
  | .array items => .openArray :: items.flatMap fun v => v.tokens ++ [.comma]
  | .object members name =>
    .openObject :: (members.flatMap fun m => memberTokens m ++ [.comma]) ++ [.string name, .colon]

/-- The tokens that have been read behind the last frame. -/
def Awaited.tokens : Awaited → List Token
  | .value => []
  | .firstItem => [.openArray]
  | .firstName => [.openObject]
  | .nextName members => .openObject :: members.flatMap fun m => memberTokens m ++ [.comma]
  | .colon members name =>
    .openObject :: (members.flatMap fun m => memberTokens m ++ [.comma]) ++ [.string name]
  | .further v => v.tokens

/-- One more list at the end brings in one more separator in front of it. -/
theorem separated_concat {α : Type} (separator : α) (parts : List (List α)) (last : List α) :
    separated separator (parts ++ [last]) = parts.flatMap (· ++ [separator]) ++ last := by
  cases parts with
  | nil => simp [separated]
  | cons first rest =>
    induction rest generalizing first with
    | nil => simp [separated]
    | cons second rest ih =>
      simp only [separated, List.cons_append, List.flatMap_cons, List.append_assoc] at ih ⊢
      rw [← ih]
      rfl

namespace Reader

/-- All that a reader has read, from the start. A step adds its token to it, and
behind a value with no bracket open it is the tokens of that value. -/
def read (r : Reader) : List Token := r.frames.reverse.flatMap Frame.tokens ++ r.awaited.tokens

/-- The first token of a value is added to what has been read. -/
theorem read_of_enter {frames : List Frame} {tok : Token} {r : Reader}
    (h : enter frames tok = some r) : r.read = frames.reverse.flatMap Frame.tokens ++ [tok] := by
  cases tok <;> simp only [enter, Option.some.injEq, reduceCtorEq] at h
  all_goals
    subst h
    simp [read, Awaited.tokens]

/-- The token behind a value is added to what has been read. -/
theorem read_of_leave {v : Json} {frames : List Frame} {tok : Token} {r : Reader}
    (h : leave v frames tok = some r) : r.read = read ⟨frames, .further v⟩ ++ [tok] := by
  unfold leave at h
  split at h
  · cases h
    simp [read, Frame.tokens, Awaited.tokens]
  · cases h
    simp [read, Frame.tokens, Awaited.tokens, tokens_array, separated_concat, List.flatMap_map]
  · cases h
    simp [read, Frame.tokens, Awaited.tokens, memberTokens]
  · cases h
    simp [read, Frame.tokens, Awaited.tokens, tokens_object, separated_concat, List.flatMap_map,
      memberTokens]
  · cases h

/-- Where an array may end, any other token begins its first item. -/
theorem step_firstItem (frames : List Frame) {tok : Token} (h : tok ≠ .closeArray) :
    step ⟨frames, .firstItem⟩ tok = enter (.array [] :: frames) tok := by
  cases tok with
  | closeArray => exact absurd rfl h
  | _ => rfl

/-- A token that is read is added to what has been read. -/
theorem read_of_step {r r' : Reader} {tok : Token} (h : r.step tok = some r') :
    r'.read = r.read ++ [tok] := by
  obtain ⟨frames, awaited⟩ := r
  cases awaited with
  | value =>
    rw [read_of_enter h]
    simp [read, Awaited.tokens]
  | firstItem =>
    by_cases hend : tok = .closeArray
    · subst hend
      cases h
      simp [read, Awaited.tokens, tokens_array, separated]
    · rw [step_firstItem frames hend] at h
      rw [read_of_enter h]
      simp [read, Awaited.tokens, Frame.tokens]
  | firstName =>
    cases tok with
    | closeObject =>
      cases h
      simp [read, Awaited.tokens, tokens_object, separated]
    | string name =>
      cases h
      simp [read, Awaited.tokens]
    | _ => cases h
  | nextName members =>
    cases tok with
    | string name =>
      cases h
      simp [read, Awaited.tokens]
    | _ => cases h
  | colon members name =>
    cases tok with
    | colon =>
      cases h
      simp [read, Awaited.tokens, Frame.tokens]
    | _ => cases h
  | further v => exact read_of_leave h

/-- Tokens that are read are added to what has been read. -/
theorem read_of_run {r r' : Reader} {ts : List Token} (h : r.run ts = some r') :
    r'.read = r.read ++ ts := by
  induction ts generalizing r with
  | nil =>
    cases h
    rw [List.append_nil]
  | cons tok rest ih =>
    cases hstep : r.step tok with
    | none =>
      rw [run, List.foldlM_cons, hstep] at h
      cases h
    | some next =>
      rw [run_cons_of_step hstep] at h
      rw [ih h, read_of_step hstep, List.append_assoc]
      rfl

end Reader

-- ---------------------------------------------------------------------------
-- Texts
-- ---------------------------------------------------------------------------

/-- Tokens are read as a value exactly if they are its tokens. -/
theorem parse?_eq_some_iff {ts : List Token} {v : Json} : parse? ts = some v ↔ ts = v.tokens := by
  constructor
  · intro h
    unfold parse? at h
    split at h
    · next hrun =>
      cases h
      exact (Reader.read_of_run hrun).symm
    · cases h
  · rintro rfl
    unfold parse?
    rw [Reader.start, Reader.takes v []]

/-- A comma needs an item behind it. -/
example : parse? [.openArray, .string "a", .comma, .closeArray] = none := by rfl

/-- What writes the tokens of a value, with blanks between them, is decoded to the
value. -/
theorem Written.decode?_eq {gaps : List Char} {t : Text} {v : Json} (h : Written gaps t v.tokens)
    (hgaps : gaps ⊆ blanks) : decode? t = some v := by
  rw [decode?, h.tokens?_eq hgaps]
  exact parse?_eq_some_iff.2 rfl

end Json

end ServiceScript
