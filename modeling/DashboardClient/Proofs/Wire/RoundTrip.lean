import DashboardClient.Wire
import DashboardClient.Proofs.Json.Written
import DashboardClient.Proofs.PartialMaps

/-!
# Messages round trip

Every message can be read back from the text it is written as, whatever characters its
fields hold and whatever white space stands around the text. So no two messages are
written alike.
-/

namespace DashboardClient

/-- White space of JSON and nothing else. -/
def Json.IsSpaces (text : String) : Prop :=
  ∀ c ∈ text.toList, Json.isSpace c = true

instance (text : String) : Decidable (Json.IsSpaces text) :=
  List.decidableBAll _ text.toList

namespace Wire

open Json (Node Spells Token writtenPieces)


-- ---------------------------------------------------------------------------
-- Records
-- ---------------------------------------------------------------------------

/-- The pieces of a field as it is written. -/
def fieldPieces (field : String × String) : List Json.Piece × List Json.Piece :=
  (writtenPieces field.1, writtenPieces field.2)

/-- A written record spells the tokens of its fields between braces. -/
theorem spells_writeRecord (fields : List (String × String)) :
    Spells (writeRecord fields).toList (.openBrace ::
      ([Token.comma].intercalate ((fields.map fieldPieces).map Json.memberTokens) ++
        [.closeBrace])) := by
  let part (field : String × String) : List Char × List Token :=
    ((Json.writtenString field.1 ++ ":" ++ Json.writtenString field.2).toList,
      Json.memberTokens (fieldPieces field))
  have hpart : ∀ p ∈ fields.map part, Spells p.1 p.2 := by
    intro p hp
    obtain ⟨field, -, rfl⟩ := List.mem_map.1 hp
    simp only [part, String.toList_append]
    exact ((Spells.writtenString field.1).append Spells.colon).append
      (Spells.writtenString field.2)
  have h := (Spells.openBrace.append (Spells.intercalate hpart)).append Spells.closeBrace
  simpa [writeRecord, part, Function.comp_def] using h

/-- With distinct names, each field is found under its name. -/
theorem memberText?_of_mem {fields : List (String × String)} {field : String × String}
    (hd : (fields.map Prod.fst).Nodup) (h : field ∈ fields) :
    memberText? field.1 (fields.map fun f => (f.1, Node.string (writtenPieces f.2))) =
      some field.2 := by
  induction fields with
  | nil => cases h
  | cons f fields ih =>
    rw [List.map_cons, List.nodup_cons] at hd
    rcases List.mem_cons.1 h with rfl | h
    · have hnone : (fields.map fun f => (f.1, Node.string (writtenPieces f.2))).filter
          (·.1 = field.1) = [] := by
        simp only [List.filter_eq_nil_iff, List.forall_mem_map, decide_eq_true_eq]
        exact fun g hg hname => hd.1 (hname ▸ List.mem_map_of_mem hg)
      simp [memberText?, hnone, Node.text?]
    · have hname : ¬f.1 = field.1 := fun he => hd.1 (he ▸ List.mem_map_of_mem h)
      rw [← ih hd.2 h]
      simp [memberText?, hname]

/-- The object of the written fields is read as their texts. -/
theorem recordOfNode?_fields {fields : List (String × String)}
    (hd : (fields.map Prod.fst).Nodup) :
    recordOfNode? (fields.map Prod.fst)
        (.object ((fields.map fieldPieces).map Json.memberNode)) =
      some (fields.map Prod.snd) := by
  have hnamed : ((fields.map fieldPieces).map Json.memberNode).mapM (fun m => do
      return (← Json.textOfPieces? m.1, m.2)) =
      some (fields.map fun f => (f.1, Node.string (writtenPieces f.2))) := by
    rw [List.map_map, List.mapM_map]
    exact mapM_eq_some_map fun f _ => by simp [Json.memberNode, fieldPieces]
  have htexts : (fields.map Prod.fst).mapM
      (memberText? · (fields.map fun f => (f.1, Node.string (writtenPieces f.2)))) =
      some (fields.map Prod.snd) := by
    rw [List.mapM_map]
    exact mapM_eq_some_map fun f hf => memberText?_of_mem hd hf
  exact Option.bind_eq_some_iff.2 ⟨_, hnamed, htexts⟩

/-- A written record is read back, also with white space around it. -/
theorem readRecord?_writeRecord (fields : List (String × String))
    (hd : (fields.map Prod.fst).Nodup) {before after : String} (hb : Json.IsSpaces before)
    (ha : Json.IsSpaces after) :
    readRecord? (fields.map Prod.fst) (before ++ writeRecord fields ++ after) =
      some (fields.map Prod.snd) := by
  have hspells := ((Spells.space hb).append (spells_writeRecord fields)).append (Spells.space ha)
  rw [List.nil_append, List.append_nil, ← String.toList_append, ← String.toList_append] at hspells
  simp only [readRecord?, Node.ofText?, Json.tokens?_of_spells hspells, bind, Option.bind_some,
    Node.ofTokens?_members, recordOfNode?_fields hd]


-- ---------------------------------------------------------------------------
-- The four messages
-- ---------------------------------------------------------------------------

section Messages

variable {before after : String}

theorem IdentityReply.decode?_encode (hb : Json.IsSpaces before) (ha : Json.IsSpaces after)
    (m : IdentityReply) : decode? (before ++ m.encode ++ after) = some m := by
  have h := readRecord?_writeRecord [("identity", m.identity)] (by simp) hb ha
  simp only [List.map_cons, List.map_nil] at h
  rw [decode?, encode, h]

theorem TokenReply.decode?_encode (hb : Json.IsSpaces before) (ha : Json.IsSpaces after)
    (m : TokenReply) : decode? (before ++ m.encode ++ after) = some m := by
  have h := readRecord?_writeRecord [("token", m.token)] (by simp) hb ha
  simp only [List.map_cons, List.map_nil] at h
  rw [decode?, encode, h]

theorem LoginRequest.decode?_encode (hb : Json.IsSpaces before) (ha : Json.IsSpaces after)
    (m : LoginRequest) : decode? (before ++ m.encode ++ after) = some m := by
  have h := readRecord?_writeRecord [("identity", m.identity), ("secret", m.secret)] (by simp) hb ha
  simp only [List.map_cons, List.map_nil] at h
  rw [decode?, encode, h]

theorem LoginReply.decode?_encode (hb : Json.IsSpaces before) (ha : Json.IsSpaces after)
    (m : LoginReply) : decode? (before ++ m.encode ++ after) = some m := by
  have h := readRecord?_writeRecord [("identity", m.identity), ("token", m.token)] (by simp) hb ha
  simp only [List.map_cons, List.map_nil] at h
  rw [decode?, encode, h]

end Messages

/-- What can be read back is not written like anything else. -/
theorem injective_of_decode {M : Type} {encode : M → String} {decode? : String → Option M}
    (h : ∀ m, decode? ("" ++ encode m ++ "") = some m) : Function.Injective encode := by
  intro m m' he
  have hm := h m
  rw [he, h m'] at hm
  exact (Option.some.inj hm).symm

/-- Each of the four messages is read back exactly from the text it is written as, with
any white space around it, and no two of them are written alike. -/
theorem messages_round_trip (before after : String) (hb : Json.IsSpaces before)
    (ha : Json.IsSpaces after) :
    ((∀ m : IdentityReply, IdentityReply.decode? (before ++ m.encode ++ after) = some m) ∧
      Function.Injective IdentityReply.encode) ∧
    ((∀ m : TokenReply, TokenReply.decode? (before ++ m.encode ++ after) = some m) ∧
      Function.Injective TokenReply.encode) ∧
    ((∀ m : LoginRequest, LoginRequest.decode? (before ++ m.encode ++ after) = some m) ∧
      Function.Injective LoginRequest.encode) ∧
    ((∀ m : LoginReply, LoginReply.decode? (before ++ m.encode ++ after) = some m) ∧
      Function.Injective LoginReply.encode) := by
  have hnone : Json.IsSpaces "" := by simp [Json.IsSpaces]
  refine ⟨⟨IdentityReply.decode?_encode hb ha, ?identity⟩, ⟨TokenReply.decode?_encode hb ha, ?token⟩,
    ⟨LoginRequest.decode?_encode hb ha, ?request⟩, ⟨LoginReply.decode?_encode hb ha, ?reply⟩⟩
  case identity => exact injective_of_decode (IdentityReply.decode?_encode hnone hnone)
  case token => exact injective_of_decode (TokenReply.decode?_encode hnone hnone)
  case request => exact injective_of_decode (LoginRequest.decode?_encode hnone hnone)
  case reply => exact injective_of_decode (LoginReply.decode?_encode hnone hnone)

/-- Credentials with a quote after a backslash, controls of both kinds and a character
beyond the first plane, read back from between two line ends. -/
theorem login_request_read_between_lines :
    Json.IsSpaces "\r\n\t " ∧ Json.IsSpaces "\n" ∧
      LoginRequest.encode ⟨"\\\"\x00\n", "😀/\x1f"⟩ =
        "\x7b\"identity\":\"\\\\\\\"\\u0000\\n\",\"secret\":\"😀/\\u001f\"\x7d" ∧
      LoginRequest.decode? ("\r\n\t " ++ LoginRequest.encode ⟨"\\\"\x00\n", "😀/\x1f"⟩ ++ "\n") =
        some ⟨"\\\"\x00\n", "😀/\x1f"⟩ :=
  ⟨by decide, by decide, by decide +kernel,
    (messages_round_trip "\r\n\t " "\n" (by decide) (by decide)).2.2.1.1 _⟩

end Wire

end DashboardClient
