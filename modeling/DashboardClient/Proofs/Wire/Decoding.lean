import DashboardClient.Proofs.Http.Responses
import DashboardClient.Proofs.Json.Trees
import DashboardClient.Proofs.PartialMaps
import DashboardClient.Wire

/-!
# What decodes

A message decodes from the texts of its grammar and from no others: one JSON text, that of an object
in which every declared field stands once and is a string, or that of an array of as many strings.
A key is compared by the text it spells, so by more than its spelling, and every key of the object
has to spell one. Whatever else stands in the object has no part in the message.
-/

namespace DashboardClient.Wire

open Json (Node Piece IsText NoLoneSurrogate textOfPieces? isSome_textOfPieces?_iff)

variable {fields texts : List String} {members : List (List Piece × Node)} {node : Node}
  {field text : String}

-- ---------------------------------------------------------------------------
-- Records
-- ---------------------------------------------------------------------------

/-- What stands under the field, whichever way its key is spelled. -/
def valuesOf (field : String) (members : List (List Piece × Node)) : List Node :=
  (members.filter (textOfPieces? ·.1 = some field)).map Prod.snd

/-- The field stands once, and is a string with the text. -/
def HasText (members : List (List Piece × Node)) (field text : String) : Prop :=
  ∃ value, valuesOf field members = [.string value] ∧ textOfPieces? value = some text

/-- The tree is a record in which the declared fields have these texts. -/
inductive IsRecord (fields : List String) : Node → List String → Prop
  | object {members : List (List Piece × Node)} {texts : List String}
      (keys : ∀ m ∈ members, NoLoneSurrogate m.1)
      (given : List.Forall₂ (HasText members) fields texts) :
      IsRecord fields (.object members) texts
  | array {values : List (List Piece)} {texts : List String}
      (count : values.length = fields.length)
      (given : List.Forall₂ (fun value text => textOfPieces? value = some text) values texts) :
      IsRecord fields (.array (values.map .string)) texts

/-- The tree is a record of the declared fields. -/
def IsAcceptable (fields : List String) : Node → Prop
  | .object members => (∀ m ∈ members, NoLoneSurrogate m.1) ∧
      ∀ field ∈ fields, ∃ value, valuesOf field members = [.string value] ∧ NoLoneSurrogate value
  | .array items => ∃ values : List (List Piece), items = values.map .string ∧
      values.length = fields.length ∧ ∀ value ∈ values, NoLoneSurrogate value
  | _ => False

theorem exists_textOfPieces?_iff {pieces : List Piece} :
    (∃ text, textOfPieces? pieces = some text) ↔ NoLoneSurrogate pieces := by
  rw [← isSome_textOfPieces?_iff, Option.isSome_iff_exists]

theorem text?_eq_some_iff : node.text? = some text ↔
    ∃ value, node = .string value ∧ textOfPieces? value = some text := by
  cases node <;> simp [Node.text?]

theorem memberText?_eq_some_iff {named : List (String × Node)} :
    memberText? field named = some text ↔
      ∃ value, (named.filter (·.1 = field)).map Prod.snd = [value] ∧ value.text? = some text := by
  unfold memberText?
  split
  · next value h => simp [h]
  · next hne =>
    refine iff_of_false nofun ?_
    rintro ⟨value, hvalue, -⟩
    obtain ⟨m, hm, rfl⟩ := List.map_eq_singleton_iff.1 hvalue
    exact hne _ _ hm

/-- The members with the texts of their keys. -/
def AreNamed (members : List (List Piece × Node)) (named : List (String × Node)) : Prop :=
  List.Forall₂ (fun m n => textOfPieces? m.1 = some n.1 ∧ m.2 = n.2) members named

theorem areNamed_iff {named : List (String × Node)} :
    (members.mapM fun (pieces, value) => do return (← textOfPieces? pieces, value)) = some named ↔
      AreNamed members named := by
  rw [mapM_eq_some_iff, AreNamed]
  refine iff_of_eq (congrArg (List.Forall₂ · members named) ?_)
  funext m n
  simp [Option.bind_eq_some_iff, Prod.ext_iff]

theorem exists_areNamed_iff :
    (∃ named, AreNamed members named) ↔ ∀ m ∈ members, NoLoneSurrogate m.1 := by
  unfold AreNamed
  rw [exists_forall₂_iff]
  refine forall₂_congr fun m _ => ?_
  rw [← exists_textOfPieces?_iff]
  constructor
  · rintro ⟨n, hname, -⟩
    exact ⟨n.1, hname⟩
  · rintro ⟨name, hname⟩
    exact ⟨(name, m.2), hname, rfl⟩

section Named

variable {named : List (String × Node)}

/-- What stands under a field can be told from the texts of the keys. -/
theorem AreNamed.valuesOf_eq (h : AreNamed members named) (field : String) :
    valuesOf field members = (named.filter (·.1 = field)).map Prod.snd := by
  unfold valuesOf
  induction h with
  | nil => rfl
  | @cons m n _ _ hm _ ih =>
    by_cases hname : n.1 = field
    · simp [hm.1, hm.2, hname, ih]
    · simp [hm.1, hname, ih]

theorem AreNamed.memberText?_eq_some_iff (h : AreNamed members named) :
    memberText? field named = some text ↔ HasText members field text := by
  rw [Wire.memberText?_eq_some_iff, ← h.valuesOf_eq]
  simp only [text?_eq_some_iff]
  constructor
  · rintro ⟨_, hvalues, value, rfl, htext⟩
    exact ⟨value, hvalues, htext⟩
  · rintro ⟨value, hvalues, htext⟩
    exact ⟨_, hvalues, value, rfl, htext⟩

end Named

theorem recordOfNode?_object : recordOfNode? fields (.object members) = some texts ↔
    (∀ m ∈ members, NoLoneSurrogate m.1) ∧ List.Forall₂ (HasText members) fields texts := by
  have hgiven {named : List (String × Node)} (h : AreNamed members named) :
      fields.mapM (memberText? · named) = some texts ↔
        List.Forall₂ (HasText members) fields texts := by
    rw [mapM_eq_some_iff]
    exact iff_of_eq (congrArg (List.Forall₂ · fields texts)
      (funext₂ fun _ _ => propext h.memberText?_eq_some_iff))
  simp only [recordOfNode?, Option.bind_eq_bind, Option.bind_eq_some_iff]
  rw [← exists_areNamed_iff]
  constructor
  · rintro ⟨named, hnamed, htexts⟩
    have hnamed := areNamed_iff.1 hnamed
    exact ⟨⟨named, hnamed⟩, (hgiven hnamed).1 htexts⟩
  · rintro ⟨⟨named, hnamed⟩, htexts⟩
    exact ⟨named, areNamed_iff.2 hnamed, (hgiven hnamed).2 htexts⟩

theorem mapM_text?_eq_some_iff {items : List Node} : items.mapM Node.text? = some texts ↔
    ∃ values : List (List Piece), items = values.map .string ∧
      List.Forall₂ (fun value text => textOfPieces? value = some text) values texts := by
  rw [mapM_eq_some_iff]
  constructor
  · intro h
    induction h with
    | nil => exact ⟨[], rfl, .nil⟩
    | cons first _ ih =>
      obtain ⟨value, rfl, htext⟩ := text?_eq_some_iff.1 first
      obtain ⟨values, rfl, others⟩ := ih
      exact ⟨value :: values, rfl, .cons htext others⟩
  · rintro ⟨values, rfl, h⟩
    induction h with
    | nil => exact .nil
    | cons first _ ih => exact .cons first ih

theorem recordOfNode?_eq_some_iff :
    recordOfNode? fields node = some texts ↔ IsRecord fields node texts := by
  cases node with
  | object members =>
    rw [recordOfNode?_object]
    constructor
    · exact fun h => .object h.1 h.2
    · rintro ⟨⟩; exact ⟨‹_›, ‹_›⟩
  | array items =>
    rw [recordOfNode?]
    constructor
    · intro h
      split at h
      case isTrue count =>
        obtain ⟨values, rfl, given⟩ := mapM_text?_eq_some_iff.1 h
        exact .array (by simpa using count) given
      case isFalse => cases h
    · rintro ⟨⟩
      case array values count given =>
        rw [if_pos (by simpa using count)]
        exact mapM_text?_eq_some_iff.2 ⟨values, rfl, given⟩
  | _ => exact iff_of_false nofun nofun

theorem IsRecord.length_eq (h : IsRecord fields node texts) : texts.length = fields.length := by
  cases h with
  | object _ given => exact given.length_eq.symm
  | array count given => exact given.length_eq.symm.trans count

theorem exists_hasText_iff : (∃ text, HasText members field text) ↔
    ∃ value, valuesOf field members = [.string value] ∧ NoLoneSurrogate value := by
  simp only [← exists_textOfPieces?_iff]
  constructor
  · rintro ⟨text, value, hvalues, htext⟩
    exact ⟨value, hvalues, text, htext⟩
  · rintro ⟨value, hvalues, text, htext⟩
    exact ⟨text, value, hvalues, htext⟩

/-- The texts can be had exactly if no surrogate stands alone in the strings and the keys. -/
theorem exists_isRecord_iff : (∃ texts, IsRecord fields node texts) ↔ IsAcceptable fields node := by
  cases node with
  | object members =>
    simp only [IsAcceptable, ← exists_hasText_iff, ← exists_forall₂_iff]
    constructor
    · rintro ⟨texts, ⟨⟩⟩
      exact ⟨‹_›, texts, ‹_›⟩
    · rintro ⟨keys, texts, given⟩
      exact ⟨texts, .object keys given⟩
  | array items =>
    simp only [IsAcceptable, ← exists_textOfPieces?_iff, ← exists_forall₂_iff]
    constructor
    · rintro ⟨texts, ⟨⟩⟩
      exact ⟨_, rfl, ‹_›, texts, ‹_›⟩
    · rintro ⟨values, rfl, count, texts, given⟩
      exact ⟨texts, .array count given⟩
  | _ => exact iff_of_false nofun nofun

theorem isSome_recordOfNode?_iff :
    (recordOfNode? fields node).isSome = true ↔ IsAcceptable fields node := by
  simp only [Option.isSome_iff_exists, recordOfNode?_eq_some_iff, exists_isRecord_iff]

theorem readRecord?_eq_some_iff : readRecord? fields text = some texts ↔
    ∃ node, IsText text node ∧ IsRecord fields node texts := by
  simp only [readRecord?, Option.bind_eq_bind, Option.bind_eq_some_iff, recordOfNode?_eq_some_iff,
    Json.ofText?_eq_some_iff]

theorem isSome_readRecord?_iff : (readRecord? fields text).isSome = true ↔
    ∃ node, IsText text node ∧ IsAcceptable fields node := by
  simp only [Option.isSome_iff_exists, readRecord?_eq_some_iff, ← exists_isRecord_iff]
  rw [exists_comm]
  simp only [exists_and_left]

theorem readRecord?_of_isText (h : IsText text node) :
    readRecord? fields text = recordOfNode? fields node := by
  rw [readRecord?, Json.ofText?_eq_some_iff.2 h]
  rfl

theorem length_of_readRecord? (h : readRecord? fields text = some texts) :
    texts.length = fields.length := by
  obtain ⟨_, -, record⟩ := readRecord?_eq_some_iff.1 h
  exact record.length_eq

/-- Only the declared fields matter, and whether every key spells a text. -/
theorem recordOfNode?_congr {members' : List (List Piece × Node)}
    (keys : (∀ m ∈ members', NoLoneSurrogate m.1) ↔ ∀ m ∈ members, NoLoneSurrogate m.1)
    (values : ∀ field ∈ fields, ∀ value,
      valuesOf field members' = [value] ↔ valuesOf field members = [value]) :
    recordOfNode? fields (.object members') = recordOfNode? fields (.object members) := by
  have hgiven (texts : List String) : List.Forall₂ (HasText members') fields texts ↔
      List.Forall₂ (HasText members) fields texts :=
    forall₂_congr_of_mem fun field hfield text =>
      exists_congr fun value => and_congr_left' (values field hfield _)
  refine Option.ext fun texts => ?_
  rw [recordOfNode?_object, recordOfNode?_object, keys, hgiven]

theorem valuesOf_perm {members' : List (List Piece × Node)} (h : members'.Perm members)
    (field : String) : (valuesOf field members').Perm (valuesOf field members) :=
  (h.filter _).map _

theorem recordOfNode?_perm {members' : List (List Piece × Node)} (h : members'.Perm members) :
    recordOfNode? fields (.object members') = recordOfNode? fields (.object members) := by
  refine recordOfNode?_congr (by simp only [h.mem_iff]) fun field _ value => ?_
  have hperm := valuesOf_perm h field
  constructor
  · intro hvalues
    rwa [hvalues, List.singleton_perm, eq_comm] at hperm
  · intro hvalues
    rwa [hvalues, List.perm_singleton] at hperm

theorem recordOfNode?_insert {before after : List (List Piece × Node)} {key : List Piece}
    {value : Node} (clean : NoLoneSurrogate key)
    (other : ∀ field ∈ fields, textOfPieces? key ≠ some field) :
    recordOfNode? fields (.object (before ++ (key, value) :: after)) =
      recordOfNode? fields (.object (before ++ after)) := by
  refine recordOfNode?_congr ?_ fun field hfield _ => ?_
  · simp only [List.forall_mem_append, List.forall_mem_cons, clean, true_and]
  · simp [valuesOf, other field hfield]


-- ---------------------------------------------------------------------------
-- The four messages
-- ---------------------------------------------------------------------------

/-- The reader accepts exactly the texts of records, and keeps the texts of their fields. -/
structure ReadsExactly {M : Type} (fields : List String) (decode? : String → Option M)
    (texts : M → List String) : Prop where
  accepts : ∀ text, (decode? text).isSome = true ↔
    ∃ node, IsText text node ∧ IsAcceptable fields node
  keeps : ∀ text m, decode? text = some m ↔
    ∃ node, IsText text node ∧ IsRecord fields node (texts m)
  reordered : ∀ {text text' members members'}, IsText text (.object members) →
    IsText text' (.object members') → members'.Perm members → decode? text' = decode? text
  /-- Any value may stand under a key that is none of the declared ones. -/
  inserted : ∀ {text text' before after key value}, IsText text (.object (before ++ after)) →
    IsText text' (.object (before ++ (key, value) :: after)) → NoLoneSurrogate key →
    (∀ field ∈ fields, textOfPieces? key ≠ some field) → decode? text' = decode? text
  /-- A declared field that is missing, stands twice or is no string. -/
  refused : ∀ {text members field}, IsText text (.object members) → field ∈ fields →
    (∀ value, valuesOf field members ≠ [.string value]) → decode? text = none
  trailing : ∀ {text node trailing}, IsText text node →
    (∃ c ∈ trailing.toList, Json.isSpace c = false) → decode? (text ++ trailing) = none
  /-- What does not decode is a parse error of the call that reads it. -/
  parse : ∀ r : HttpResponse, r.isWhole = true → 200 ≤ r.status ∧ r.status ≤ 299 →
    decode? (Text.ofUtf8Lossy r.body) = none → ∃ reason, r.decode decode? = .error (.parse reason)

section Readers

variable {M : Type} {decode? : String → Option M} {texts : M → List String}

theorem ReadsExactly.of_map (injective : Function.Injective texts)
    (h : ∀ text, (decode? text).map texts = readRecord? fields text) :
    ReadsExactly fields decode? texts := by
  have hsome (text : String) (m : M) :
      decode? text = some m ↔ readRecord? fields text = some (texts m) := by
    rw [← h, ← Option.map_some, (Option.map_injective injective).eq_iff]
  have heq {text text' : String} (hread : readRecord? fields text' = readRecord? fields text) :
      decode? text' = decode? text :=
    Option.ext fun m => by rw [hsome, hsome, hread]
  have hnone {text : String} (hread : readRecord? fields text = none) : decode? text = none := by
    rwa [← h, Option.map_eq_none_iff] at hread
  constructor
  case accepts => exact fun text => by rw [← isSome_readRecord?_iff, ← h, Option.isSome_map]
  case keeps => exact fun text m => by rw [hsome, readRecord?_eq_some_iff]
  case reordered =>
    intro text text' members members' htext htext' hperm
    apply heq
    rw [readRecord?_of_isText htext, readRecord?_of_isText htext', recordOfNode?_perm hperm]
  case inserted =>
    intro text text' before after key value htext htext' clean other
    apply heq
    rw [readRecord?_of_isText htext, readRecord?_of_isText htext', recordOfNode?_insert clean other]
  case refused =>
    intro text members field htext hfield hvalues
    apply hnone
    rw [readRecord?_of_isText htext, ← Option.not_isSome_iff_eq_none, isSome_recordOfNode?_iff]
    rintro ⟨-, given⟩
    obtain ⟨value, hvalue, -⟩ := given field hfield
    exact hvalues value hvalue
  case trailing =>
    intro text node trailing htext hmore
    apply hnone
    rw [← Option.not_isSome_iff_eq_none, isSome_readRecord?_iff]
    rintro ⟨node', htext', acceptable⟩
    obtain ⟨n, rfl⟩ := htext.number_of_append htext' hmore
    exact acceptable
  case parse =>
    intro r whole range hnone
    exact (HttpResponse.isClassified_decode whole).unreadable range hnone

variable {first second : String}

theorem map_of_one_field (make : String → M) (texts_make : ∀ a, texts (make a) = [a])
    (reads : ∀ text, decode? text = match readRecord? [first] text with
      | some [a] => some (make a)
      | _ => none) (text : String) :
    (decode? text).map texts = readRecord? [first] text := by
  rw [reads]
  cases hread : readRecord? [first] text with
  | none => rfl
  | some read =>
    obtain ⟨a, rfl⟩ := List.length_eq_one_iff.1 (length_of_readRecord? hread)
    exact congrArg some (texts_make a)

theorem map_of_two_fields (make : String → String → M)
    (texts_make : ∀ a b, texts (make a b) = [a, b])
    (reads : ∀ text, decode? text = match readRecord? [first, second] text with
      | some [a, b] => some (make a b)
      | _ => none) (text : String) :
    (decode? text).map texts = readRecord? [first, second] text := by
  rw [reads]
  cases hread : readRecord? [first, second] text with
  | none => rfl
  | some read =>
    obtain ⟨a, b, rfl⟩ := List.length_eq_two.1 (length_of_readRecord? hread)
    exact congrArg some (texts_make a b)

end Readers

/-- Each of the four messages decodes from the texts of its grammar and from no others. The texts it
carries are those of the declared fields, whatever the order of the members and whatever else stands
in the object, as long as every key of it has a text. A field that is missing, repeated or no
string, and text behind the value, is a parse error. -/
theorem messages_read_exactly :
    ReadsExactly ["identity"] IdentityReply.decode? (fun m => [m.identity]) ∧
    ReadsExactly ["token"] TokenReply.decode? (fun m => [m.token]) ∧
    ReadsExactly ["identity", "secret"] LoginRequest.decode? (fun m => [m.identity, m.secret]) ∧
    ReadsExactly ["identity", "token"] LoginReply.decode? (fun m => [m.identity, m.token]) := by
  refine ⟨.of_map ?_ (map_of_one_field IdentityReply.mk (fun _ => rfl) fun _ => rfl),
    .of_map ?_ (map_of_one_field TokenReply.mk (fun _ => rfl) fun _ => rfl),
    .of_map ?_ (map_of_two_fields LoginRequest.mk (fun _ _ => rfl) fun _ => rfl),
    .of_map ?_ (map_of_two_fields LoginReply.mk (fun _ _ => rfl) fun _ => rfl)⟩
  all_goals
    rintro ⟨⟩ ⟨⟩ h
    simpa using h

/-- A key may be spelled with escapes, and what stands around the field is passed over to its very
end, even if the name of the field stands in it. -/
theorem identity_read_among_others :
    let text := "\x7b \"x\":[\x7b\"identity\":null\x7d,-1.5e+3], \"\\u0069dentity\":\"a\"\x7d\n"
    IdentityReply.decode? text = some ⟨"a"⟩ ∧ IdentityReply.decode? (text ++ "]") = none := by
  intro text
  let others : Node := .array [.object [(Json.writtenPieces "identity", .null)],
    .number ⟨true, [1], [5], some ⟨false, [3]⟩⟩]
  let key : List Piece := .unit 0x69 :: "dentity".toList.map .char
  have htext : IsText text (.object [([.char 'x'], others), (key, .string [.char 'a'])]) :=
    .of_tokens? (by decide +kernel)
  have hall := messages_read_exactly.1
  have hkeys : NoLoneSurrogate [.char 'x'] ∧ NoLoneSurrogate key :=
    ⟨.char .nil, (isSome_textOfPieces?_iff key).1 (by decide)⟩
  refine ⟨(hall.keeps text ⟨"a"⟩).2 ⟨_, htext, .object (by simpa using hkeys) ?_⟩,
    hall.trailing htext ⟨']', by decide, by decide⟩⟩
  exact .cons ⟨[.char 'a'], rfl, rfl⟩ .nil

/-- Every key is read as a text, also one that is passed over: with a surrogate alone in it, the
object does not decode, although its one declared field stands once and is a string with a text. -/
theorem lone_surrogate_in_other_key :
    let text := "\x7b\"\\ud800\":1,\"identity\":\"a\"\x7d"
    let other : List Piece × Node := ([.unit 0xd800], .number ⟨false, [1], [], none⟩)
    let field : List Piece × Node := (Json.writtenPieces "identity", .string [.char 'a'])
    IsText text (.object [other, field]) ∧
      valuesOf "identity" [other, field] = [.string [.char 'a']] ∧
      NoLoneSurrogate [.char 'a'] ∧
      IdentityReply.decode? text = none ∧
      IdentityReply.decode? "\x7b\"identity\":\"a\"\x7d" = some ⟨"a"⟩ := by
  intro text other field
  refine ⟨.of_tokens? (by decide +kernel), rfl, .char .nil, by decide +kernel, by decide +kernel⟩

end DashboardClient.Wire
