import KeyIndex.Proofs.Json.Token

/-!
# Trees are read from their texts

A text of a tree is read as the tree.  No two numbers stand next to each other in the tokens of a
tree: what separates its values is a punctuation mark.  So the text is scanned as these tokens, and
they take the machine from where a value is awaited to where the tree has been given to the
innermost open container.

Main results:

- Theorem `Tree.apart_tokens`: no two numbers stand next to each other.
- Definition `Tree.Takes`, Theorem `Tree.takes_tokens`: what the tokens of a tree do.
- Theorem `Tree.parse?_of_isText`: a tree is read from its texts.
-/

namespace KeyIndex.Json

namespace Tree

/-! ## Numbers stand apart -/

/-- On both sides of a mark there may be numbers. -/
theorem apart_append_mark {mark : Token} {tokens more : List Token} (hmark : ¬ mark.IsNumber)
    (h : Apart tokens) (hmore : Apart more) : Apart (tokens ++ mark :: more) := by
  apply List.isChain_append.mpr
  refine ⟨h, List.isChain_cons.mpr ⟨?_, hmore⟩, ?_⟩
  · exact fun next _ hnumbers => hmark hnumbers.1
  · rintro last _ next ⟨⟩ hnumbers
    exact hmark hnumbers.2

theorem apart_cons_mark {mark : Token} {more : List Token} (hmark : ¬ mark.IsNumber)
    (hmore : Apart more) : Apart (mark :: more) :=
  @apart_append_mark mark [] more hmark .nil hmore

/-- A name and a colon may stand before a number. -/
theorem apart_cons_name (name : Text) {more : List Token} (hmore : Apart more) :
    Apart (.string name :: .colon :: more) :=
  apart_cons_mark id (apart_cons_mark id hmore)

mutual

/-- In the tokens of a tree no two numbers stand next to each other. -/
theorem apart_tokens : ∀ tree : Tree, Apart tree.tokens
  | .null => .singleton _
  | .bool _ => .singleton _
  | .number _ => .singleton _
  | .string _ => .singleton _
  | .array items => by
    rw [tokens]
    exact apart_cons_mark id (apart_append_mark id (apart_itemTokens items) .nil)
  | .object members => by
    rw [tokens]
    exact apart_cons_mark id (apart_append_mark id (apart_memberTokens members) .nil)

theorem apart_itemTokens : ∀ items : List Tree, Apart (itemTokens items)
  | [] => .nil
  | [item] => apart_tokens item
  | item :: next :: items => by
    rw [itemTokens]
    · exact apart_append_mark id (apart_tokens item) (apart_itemTokens (next :: items))
    · exact List.cons_ne_nil _ _

theorem apart_memberTokens : ∀ members : List (Text × Tree), Apart (memberTokens members)
  | [] => .nil
  | [(name, tree)] => apart_cons_name name (apart_tokens tree)
  | (name, tree) :: next :: members => by
    rw [memberTokens]
    · exact apart_cons_name name
        (apart_append_mark id (apart_tokens tree) (apart_memberTokens (next :: members)))
    · exact List.cons_ne_nil _ _

end

/-! ## The machine -/

/-- What the machine makes of some tokens from a state. -/
def run (tokens : List Token) (state : State) : Option State := tokens.foldlM step state

theorem run_cons (token : Token) (tokens : List Token) (state : State) :
    run (token :: tokens) state = (step state token).bind (run tokens) := rfl

theorem run_append (tokens more : List Token) (state : State) :
    run (tokens ++ more) state = (run tokens state).bind (run more) := List.foldlM_append

/-- Some tokens take the machine from one state to another, whatever follows. -/
def Takes (tokens : List Token) (state next : State) : Prop := run tokens state = some next

theorem Takes.append {tokens more : List Token} {state mid next : State}
    (h : Takes tokens state mid) (hmore : Takes more mid next) :
    Takes (tokens ++ more) state next := by
  rw [Takes, run_append, h]
  exact hmore

theorem Takes.cons {token : Token} {tokens : List Token} {state mid next : State}
    (h : step state token = some mid) (htokens : Takes tokens mid next) :
    Takes (token :: tokens) state next := by
  rw [Takes, run_cons, h]
  exact htokens

theorem takes_nil (state : State) : Takes [] state state := rfl

theorem takes_one {token : Token} {state next : State} (h : step state token = some next) :
    Takes [token] state next := .cons h (takes_nil next)

/-- The first token of a tree does not close an array. -/
theorem exists_tokens_cons (tree : Tree) :
    ∃ token more, tree.tokens = token :: more ∧ token ≠ .closeArray := by
  cases tree <;> exact ⟨_, _, rfl, by simp⟩

theorem exists_itemTokens_cons (item : Tree) (items : List Tree) :
    ∃ token more, itemTokens (item :: items) = token :: more ∧ token ≠ .closeArray := by
  rcases exists_tokens_cons item with ⟨token, more, htokens, hne⟩
  cases items with
  | nil => exact ⟨token, more, htokens, hne⟩
  | cons next items =>
    refine ⟨token, more ++ .comma :: itemTokens (next :: items), ?_, hne⟩
    rw [itemTokens, htokens, List.cons_append]
    exact List.cons_ne_nil _ _

/-- Where an array may end, its items begin like anywhere else. -/
theorem takes_first_item {item : Tree} {items : List Tree} {frames : List Frame} {next : State}
    (h : Takes (itemTokens (item :: items)) (.value (.array [] :: frames)) next) :
    Takes (itemTokens (item :: items)) (.itemOrEnd frames) next := by
  rcases exists_itemTokens_cons item items with ⟨token, more, htokens, hne⟩
  rw [htokens, Takes, run_cons] at h ⊢
  have hstep : step (.itemOrEnd frames) token = step (.value (.array [] :: frames)) token := by
    cases token with
    | closeArray => exact absurd rfl hne
    | _ => rfl
  rwa [hstep]

/-- Where an object may end, its members begin like anywhere else. -/
theorem takes_first_member {member : Text × Tree} {members : List (Text × Tree)}
    {frames : List Frame} {next : State}
    (h : Takes (memberTokens (member :: members)) (.nextName [] frames) next) :
    Takes (memberTokens (member :: members)) (.nameOrEnd frames) next := by
  cases members with
  | nil => exact h
  | cons second members =>
    rw [memberTokens] at h ⊢
    · exact h
    all_goals exact List.cons_ne_nil _ _

/-- A member of an object, from where its name is awaited. -/
theorem takes_member {name : Text} {tree : Tree} {done : List (Text × Tree)} {frames : List Frame}
    (h : Takes tree.tokens (.value (.object done name :: frames))
      (.commaOrEndObject ((name, tree) :: done) frames)) :
    Takes (.string name :: .colon :: tree.tokens) (.nextName done frames)
      (.commaOrEndObject ((name, tree) :: done) frames) := by
  have hname : step (.nextName done frames) (.string name) = some (.colon done name frames) := rfl
  have hcolon : step (.colon done name frames) .colon =
      some (.value (.object done name :: frames)) := rfl
  exact .cons hname (.cons hcolon h)

mutual

/-- Where a value is awaited, the tokens of a tree give it to the innermost open container. -/
theorem takes_tokens : ∀ (tree : Tree) (frames : List Frame),
    Takes tree.tokens (.value frames) (.give tree frames)
  | .null, _ => takes_one rfl
  | .bool _, _ => takes_one rfl
  | .number _, _ => takes_one rfl
  | .string _, _ => takes_one rfl
  | .array [], frames => by
    have hopen : step (.value frames) .openArray = some (.itemOrEnd frames) := rfl
    exact .cons hopen (takes_one rfl)
  | .array (item :: items), frames => by
    have hopen : step (.value frames) .openArray = some (.itemOrEnd frames) := rfl
    have hitems := takes_itemTokens (item :: items) [] frames (List.cons_ne_nil _ _)
    rw [tokens, List.cons_append]
    refine .cons hopen ((takes_first_item hitems).append (takes_one ?_))
    rw [List.append_nil, step, List.reverse_reverse]
  | .object [], frames => by
    have hopen : step (.value frames) .openObject = some (.nameOrEnd frames) := rfl
    exact .cons hopen (takes_one rfl)
  | .object (member :: members), frames => by
    have hopen : step (.value frames) .openObject = some (.nameOrEnd frames) := rfl
    have hmembers := takes_memberTokens (member :: members) [] frames (List.cons_ne_nil _ _)
    rw [tokens, List.cons_append]
    refine .cons hopen ((takes_first_member hmembers).append (takes_one ?_))
    rw [List.append_nil, step, List.reverse_reverse]

/-- The items of an array, from where one is awaited. -/
theorem takes_itemTokens : ∀ (items done : List Tree) (frames : List Frame),
    items ≠ [] → Takes (itemTokens items) (.value (.array done :: frames))
      (.commaOrEndArray (items.reverse ++ done) frames)
  | [], _, _, hne => absurd rfl hne
  | [item], done, frames, _ => takes_tokens item (.array done :: frames)
  | item :: second :: items, done, frames, _ => by
    have hitem := takes_tokens item (.array done :: frames)
    have hitems := takes_itemTokens (second :: items) (item :: done) frames (List.cons_ne_nil _ _)
    have hcomma : step (.give item (.array done :: frames)) .comma =
        some (.value (.array (item :: done) :: frames)) := rfl
    rw [itemTokens, List.reverse_cons, List.append_assoc, List.singleton_append]
    · exact hitem.append (.cons hcomma hitems)
    · exact List.cons_ne_nil _ _

/-- The members of an object, from where a name is awaited. -/
theorem takes_memberTokens : ∀ (members done : List (Text × Tree)) (frames : List Frame),
    members ≠ [] → Takes (memberTokens members) (.nextName done frames)
      (.commaOrEndObject (members.reverse ++ done) frames)
  | [], _, _, hne => absurd rfl hne
  | [(name, tree)], done, frames, _ =>
    takes_member (takes_tokens tree (.object done name :: frames))
  | (name, tree) :: second :: members, done, frames, _ => by
    have hmember := takes_member (takes_tokens tree (.object done name :: frames))
    have hmembers := takes_memberTokens (second :: members) ((name, tree) :: done) frames
      (List.cons_ne_nil _ _)
    have hcomma : step (.commaOrEndObject ((name, tree) :: done) frames) .comma =
        some (.nextName ((name, tree) :: done) frames) := rfl
    rw [memberTokens, List.reverse_cons, List.append_assoc, List.singleton_append]
    · exact hmember.append (.cons hcomma hmembers)
    · exact List.cons_ne_nil _ _

end

/-- A tree is read from its texts. -/
theorem parse?_of_isText {tree : Tree} {text : String} (h : tree.IsText text) :
    parse? text = some tree := by
  have hrun : run tree.tokens (.value []) = some (.complete tree) := takes_tokens tree []
  rw [parse?, h.scan tree.apart_tokens, Option.bind_some, ofTokens?]
  rw [run] at hrun
  rw [hrun]

end Tree

end KeyIndex.Json
