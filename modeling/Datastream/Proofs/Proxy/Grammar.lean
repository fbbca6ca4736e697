import Datastream.Proofs.Action
import Datastream.Proofs.Value.Extract
import Datastream.Proofs.Value.Pairs
import Datastream.Proxy.Message

/-!
# The grammar of session messages

A list of values is a message of the session if it opens with the number of a kind and goes on as that kind
asks: names are byte arrays, a state is keys and values in turn, a heartbeat has a date-time. `Spells` says
which message a list is, and in which list that message is written again: names are spelt anew, what is not
asked for is left out, a state has each key once and in order, and parameters stay as they are. A list is
read as the message that it spells, and if it spells none it is malformed (`ofList_follows_grammar`).

The reader is `from_list`, the writer `to_list`.
-/
namespace Datastream

namespace Value

/-- A byte array travels as a name: the text that it spells, with replacement characters for what is no
text, or no text at all. -/
inductive Names : Value → String → Prop
  | text (b : Bytes) : Names (.bytes (some b)) (Utf8.decode b)
  | null : Names (.bytes none) ""

/-- Names and values in turn, and the pairs that they are. -/
inductive Alternates : List Value → List (String × Value) → Prop
  | nil : Alternates [] []
  | cons {k : Value} {key : String} {rest : List Value} {pairs : List (String × Value)} (value : Value)
      (named : k.Names key) (others : Alternates rest pairs) :
      Alternates (k :: value :: rest) ((key, value) :: pairs)

theorem name?_eq_some_iff (v : Value) (name : String) : v.name? = some name ↔ v.Names name := by
  have empty : Utf8.decode [] = "" := by rw [Utf8.decode, Utf8.chars]
  constructor
  · intro read
    unfold name? at read
    split at read
    · rename_i b
      cases read
      cases b with
      | none => exact empty ▸ .null
      | some b => exact .text b
    · cases read
  · rintro (b | _)
    · rfl
    · exact congrArg some empty

theorem names_ofName (name : String) : (ofName name).Names name :=
  (name?_eq_some_iff _ name).mp (name?_ofName name)

theorem alternates_flatMap (pairs : List (String × Value)) :
    Alternates (pairs.flatMap fun pair => [.ofName pair.1, pair.2]) pairs := by
  induction pairs with
  | nil => exact .nil
  | cons pair rest ih => exact .cons pair.2 (names_ofName pair.1) ih

end Value

namespace ProxyMessage

open Value (Names Alternates)

/-- The lists that are messages, each with its message and the list in which that is written. -/
inductive Spells : List Value → ProxyMessage → List Value → Prop
  | sync {c o s : Value} {className objectName slot : String} (params : List Value)
      (ofClass : c.Names className) (ofObject : o.Names objectName) (ofSlot : s.Names slot) :
      Spells (.int 1 :: c :: o :: s :: params) (.sync className objectName slot params)
        (.int 1 :: .ofName className :: .ofName objectName :: .ofName slot :: params)
  | rpc {s : Value} {slot : String} (params : List Value) (ofSlot : s.Names slot) :
      Spells (.int 2 :: s :: params) (.rpc slot params) (.int 2 :: .ofName slot :: params)
  | initRequest {c o : Value} {className objectName : String} (more : List Value)
      (ofClass : c.Names className) (ofObject : o.Names objectName) :
      Spells (.int 3 :: c :: o :: more) (.initRequest className objectName)
        [.int 3, .ofName className, .ofName objectName]
  | initData {c o : Value} {className objectName : String} {rest : List Value}
      {pairs : List (String × Value)} {state : Fields} (ofClass : c.Names className)
      (ofObject : o.Names objectName) (alternates : Alternates rest pairs) (sorted : state.Sorted)
      (last : state.Perm (lastByKey Prod.fst pairs)) :
      Spells (.int 4 :: c :: o :: rest) (.initData className objectName state)
        (.int 4 :: .ofName className :: .ofName objectName ::
          state.flatMap fun entry => [.ofName entry.1, entry.2])
  | heartBeat (sent : DateTime) (more : List Value) :
      Spells (.int 5 :: .dateTime sent :: more) (.heartBeat sent) [.int 5, .dateTime sent]
  | heartBeatReply (sent : DateTime) (more : List Value) :
      Spells (.int 6 :: .dateTime sent :: more) (.heartBeatReply sent) [.int 6, .dateTime sent]

theorem toList_of_spells {items written : List Value} {m : ProxyMessage} (spells : Spells items m written) :
    m.toList = written := by
  cases spells <;> rfl

theorem nameAt_of_names {items : List Value} {place : Nat} {v : Value} {name : String}
    (there : items[place]? = some v) (named : v.Names name) (role : String) :
    nameAt items place role = .ok name := by
  rw [nameAt, there, Option.bind_some, (Value.name?_eq_some_iff v name).mpr named]

/-- Pairs are put into the state one by one. -/
theorem stateOf_alternates {rest : List Value} {pairs : List (String × Value)}
    (alternates : Alternates rest pairs) (className objectName : String) (state : Fields) :
    stateOf className objectName rest state =
      .ok (pairs.foldl (fun state pair => state.insert pair.1 pair.2) state) := by
  induction alternates generalizing state with
  | nil => rfl
  | cons value named others ih =>
    rw [stateOf.eq_def]
    simp only [(Value.name?_eq_some_iff _ _).mpr named]
    exact ih _

theorem ofList_of_spells {items written : List Value} {m : ProxyMessage} (spells : Spells items m written) :
    ofList items = .ok m := by
  cases spells with
  | @sync c o s className objectName slot params ofClass ofObject ofSlot =>
    let items := .int 1 :: c :: o :: s :: params
    have first : nameAt items 1 "class name" = .ok className := nameAt_of_names rfl ofClass _
    have second : nameAt items 2 "object name" = .ok objectName := nameAt_of_names rfl ofObject _
    have third : nameAt items 3 "slot name" = .ok slot := nameAt_of_names rfl ofSlot _
    rw [ofList, first, second, third]
    rfl
  | @rpc s slot params ofSlot =>
    have first : nameAt (.int 2 :: s :: params) 1 "slot name" = .ok slot := nameAt_of_names rfl ofSlot _
    rw [ofList, first]
    rfl
  | @initRequest c o className objectName more ofClass ofObject =>
    let items := .int 3 :: c :: o :: more
    have first : nameAt items 1 "class name" = .ok className := nameAt_of_names rfl ofClass _
    have second : nameAt items 2 "object name" = .ok objectName := nameAt_of_names rfl ofObject _
    rw [ofList, first, second]
    rfl
  | @initData c o className objectName rest pairs state ofClass ofObject alternates sorted last =>
    let items := .int 4 :: c :: o :: rest
    have first : nameAt items 1 "class name" = .ok className := nameAt_of_names rfl ofClass _
    have second : nameAt items 2 "object name" = .ok objectName := nameAt_of_names rfl ofObject _
    have third : stateOf className objectName rest [] = .ok state :=
      (sorted.eq_ofPairs_iff pairs).mpr last ▸ stateOf_alternates alternates className objectName []
    rw [ofList, first, second]
    exact congrArg (· >>= fun state => pure (initData className objectName state)) third
  | heartBeat sent more => rfl
  | heartBeatReply sent more => rfl

/-- Behind what was read comes a name, or something is wrong. -/
theorem parses_nameAt (front rest : List Value) (role : String) :
    Parses (nameAt (front ++ rest) front.length role)
      (fun name => ∃ v others, rest = v :: others ∧ v.Names name) fun _ => True := by
  unfold nameAt
  rw [List.getElem?_append_right (Nat.le_refl _), Nat.sub_self]
  cases rest with
  | nil => exact ⟨_, rfl, trivial⟩
  | cons v others =>
    rw [List.getElem?_cons_zero, Option.bind_some]
    split
    · rename_i name read
      exact ⟨v, others, rfl, (Value.name?_eq_some_iff v name).mp read⟩
    · exact ⟨_, rfl, trivial⟩

theorem parses_timestampOf (first : Value) (rest : List Value) :
    Parses (timestampOf (first :: rest)) (fun sent => ∃ more, rest = .dateTime sent :: more)
      fun _ => True := by
  unfold timestampOf
  rw [List.getElem?_cons_succ]
  cases rest with
  | nil => exact ⟨_, rfl, trivial⟩
  | cons v more =>
    cases v with
    | dateTime sent => exact ⟨more, rfl⟩
    | _ => exact ⟨_, rfl, trivial⟩

/-- Names and values in turn are put into the state, or something is wrong. -/
theorem parses_stateOf (className objectName : String) (rest : List Value) (state : Fields) :
    Parses (stateOf className objectName rest state)
      (fun final => ∃ pairs, Alternates rest pairs ∧
        final = pairs.foldl (fun state pair => state.insert pair.1 pair.2) state) fun _ => True := by
  fun_induction stateOf className objectName rest state with
  | case1 state => exact ⟨[], .nil, rfl⟩
  | case2 => exact ⟨_, rfl, trivial⟩
  | case3 => exact ⟨_, rfl, trivial⟩
  | case4 k state name value rest read ih =>
    refine ih.imp ?_
    rintro _ ⟨pairs, alternates, rfl⟩
    exact ⟨(name, value) :: pairs, .cons value ((Value.name?_eq_some_iff k name).mp read) alternates, rfl⟩

theorem parses_ofList (items : List Value) :
    Parses (ofList items) (fun m => Spells items m m.toList) fun _ => True := by
  unfold ofList
  split
  · exact ⟨_, rfl, trivial⟩
  · rename_i kind first
    obtain ⟨rest, rfl⟩ := List.head?_eq_some_iff.mp first
    -- What was read already stands in front, so that the next name is the first of the rest.
    split_ifs with one two three four five six
    · subst one
      refine (parses_nameAt [.int 1] rest _).bind (fun _ _ => trivial) ?_
      rintro className ⟨c, rest, rfl, ofClass⟩
      refine (parses_nameAt [.int 1, c] rest _).bind (fun _ _ => trivial) ?_
      rintro objectName ⟨o, rest, rfl, ofObject⟩
      refine (parses_nameAt [.int 1, c, o] rest _).bind (fun _ _ => trivial) ?_
      rintro slot ⟨s, params, rfl, ofSlot⟩
      exact .sync params ofClass ofObject ofSlot
    · subst two
      refine (parses_nameAt [.int 2] rest _).bind (fun _ _ => trivial) ?_
      rintro slot ⟨s, params, rfl, ofSlot⟩
      exact .rpc params ofSlot
    · subst three
      refine (parses_nameAt [.int 3] rest _).bind (fun _ _ => trivial) ?_
      rintro className ⟨c, rest, rfl, ofClass⟩
      refine (parses_nameAt [.int 3, c] rest _).bind (fun _ _ => trivial) ?_
      rintro objectName ⟨o, more, rfl, ofObject⟩
      exact .initRequest more ofClass ofObject
    · subst four
      refine (parses_nameAt [.int 4] rest _).bind (fun _ _ => trivial) ?_
      rintro className ⟨c, rest, rfl, ofClass⟩
      refine (parses_nameAt [.int 4, c] rest _).bind (fun _ _ => trivial) ?_
      rintro objectName ⟨o, rest, rfl, ofObject⟩
      refine (parses_stateOf className objectName rest []).bind (fun _ _ => trivial) ?_
      rintro _ ⟨pairs, alternates, rfl⟩
      exact .initData ofClass ofObject alternates (Fields.sorted_ofPairs pairs) (Fields.perm_lastByKey pairs)
    · subst five
      refine (parses_timestampOf (.int 5) rest).bind (fun _ _ => trivial) ?_
      rintro sent ⟨more, rfl⟩
      exact .heartBeat sent more
    · subst six
      refine (parses_timestampOf (.int 6) rest).bind (fun _ _ => trivial) ?_
      rintro sent ⟨more, rfl⟩
      exact .heartBeatReply sent more
    · exact ⟨_, rfl, trivial⟩
  · exact ⟨_, rfl, trivial⟩

/-- A list is read just if it spells a message: as that message, which is written as the list says. If it
spells none, it is malformed. -/
theorem ofList_follows_grammar (items : List Value) :
    (∀ m written, Spells items m written ↔ ofList items = .ok m ∧ m.toList = written) ∧
      ((∀ m written, ¬ Spells items m written) → ∃ cause, ofList items = .error (.malformed cause)) := by
  have parsed := parses_ofList items
  refine ⟨fun m written => ⟨fun spells => ⟨ofList_of_spells spells, toList_of_spells spells⟩, ?_⟩, ?_⟩
  · rintro ⟨read, rfl⟩
    rwa [read] at parsed
  · intro nothing
    cases outcome : ofList items with
    | ok m =>
      rw [outcome] at parsed
      exact absurd parsed (nothing m _)
    | error error =>
      rw [outcome] at parsed
      obtain ⟨cause, rfl, -⟩ := parsed
      exact ⟨cause, rfl⟩

/-- A state of an object whose class has no name and whose own is half a text; one key is set twice. -/
def untidy : List Value :=
  [.int 4, .bytes none, .bytes (some [0x41, 0xFF]), .ofName "b", .int 1, .ofName "a", .int 2, .ofName "b",
    .int 3]

/-- The state is written in order, with the last value of each key. Without its last value it is no state. -/
theorem untidy_follows_grammar :
    (∃ m, ofList untidy = .ok m ∧
      m.toList = [.int 4, .ofName "", .ofName "A\uFFFD", .ofName "a", .int 2, .ofName "b", .int 3]) ∧
      ∃ cause, ofList untidy.dropLast = .error (.malformed cause) := by
  constructor
  · have object : Names (.bytes (some [0x41, 0xFF])) "A\uFFFD" := by
      have half : Utf8.decode [0x41, 0xFF] = "A\uFFFD" := by decide +kernel
      exact half ▸ .text _
    have pairs : Alternates (untidy.drop 3) [("b", .int 1), ("a", .int 2), ("b", .int 3)] :=
      Value.alternates_flatMap [("b", .int 1), ("a", .int 2), ("b", .int 3)]
    have state : [("a", Value.int 2), ("b", .int 3)].Perm
        (lastByKey Prod.fst [("b", .int 1), ("a", .int 2), ("b", .int 3)]) := .refl _
    exact ⟨_, ((ofList_follows_grammar untidy).1 _ _).mp (.initData .null object pairs (by decide) state)⟩
  · refine (ofList_follows_grammar untidy.dropLast).2 fun m written spells => ?_
    cases spells with
    | initData _ _ alternates =>
      cases alternates with
      | cons _ _ others =>
        cases others with
        | cons _ _ others => cases others

end ProxyMessage
end Datastream
