import DashboardClient.Http.Connection
import DashboardClient.Proofs.Config.Origin
import Mathlib.Data.List.DropRight
import Mathlib.Data.List.TakeWhile

/-!
# Targets of requests

The target of a path is what the address reader makes of the base and the path together. If the
base is an origin, the target is the path as it stands. Whatever the base is, the target ends as the
path does, unless the base has a fragment: then everything behind the mark stays with the client. So
logins and logouts go to different targets unless it has one.
-/

namespace DashboardClient

-- ---------------------------------------------------------------------------
-- Ends of lists
-- ---------------------------------------------------------------------------

section

variable {α : Type} {p : α → Bool} {x : α} {xs ys zs : List α}

/-- A part at the end that starts with a kept element outlasts the dropping. -/
theorem suffix_dropWhile (hx : p x = false) (h : x :: xs <:+ ys) : x :: xs <:+ ys.dropWhile p := by
  obtain ⟨front, rfl⟩ := h
  induction front with
  | nil => simp [hx]
  | cons y front ih =>
    rw [List.cons_append, List.dropWhile_cons]
    split
    · exact ih
    · exact ⟨y :: front, rfl⟩

/-- A part at the end is behind every element that it does not have. -/
theorem suffix_of_suffix_append_cons (hx : x ∉ ys) (h : ys <:+ xs ++ x :: zs) : ys <:+ zs := by
  rcases List.suffix_or_suffix_of_suffix h (List.suffix_append xs (x :: zs)) with hys | hxs
  · rcases List.suffix_cons_iff.1 hys with rfl | hys
    · exact absurd List.mem_cons_self hx
    · exact hys
  · exact absurd (hxs.subset List.mem_cons_self) hx

theorem suffix_drop_one (h : x :: xs <:+ ys) : xs <:+ ys.drop 1 := by
  obtain ⟨front, rfl⟩ := h
  cases front with
  | nil => exact List.suffix_refl xs
  | cons y front => exact ⟨front ++ [x], by simp⟩

end


-- ---------------------------------------------------------------------------
-- The end of an address
-- ---------------------------------------------------------------------------

namespace Address

variable {special word text : String} {cs : List Char} {a : Address}

theorem suffix_escape (plain : escape special word.toList = word) (h : word.toList <:+ cs) :
    word.toList <:+ (escape special cs).toList := by
  obtain ⟨front, rfl⟩ := h
  have hend := congrArg String.toList plain
  rw [escape, String.toList_ofList] at hend
  rw [escape, String.toList_ofList, List.flatMap_append, hend]
  exact List.suffix_append _ _

/-- The last segment of a path stays the last one if it is no dot segment. -/
theorem getLast?_resolve {done : List String} {segments : List (List Char)} {last : List Char}
    (h : segments.getLast? = some last) (one : plainDots last ≠ ".") (two : plainDots last ≠ "..") :
    (resolve done segments).getLast? = some (escape "\"#<>?\x60\x7b\x7d" last) := by
  induction segments generalizing done with
  | nil => cases h
  | cons segment rest ih =>
    cases rest with
    | nil =>
      obtain rfl : segment = last := by simpa using h
      rw [resolve]
      split
      · exact absurd ‹_› one
      · exact absurd ‹_› two
      · rw [resolve, List.getLast?_concat]
    | cons next rest =>
      have hrest : (next :: rest).getLast? = some last := h
      rw [resolve]
      split <;> exact ih hrest

theorem suffix_target_of_query (query : a.query = some text) (ends : word.toList <:+ text.toList) :
    word.toList <:+ a.target.toList := by
  refine ends.trans ?_
  rw [target, String.toList_append, query]
  simpa using (List.suffix_cons '?' text.toList).trans (List.suffix_append _ _)

theorem suffix_target_of_path (query : a.query = none) (last : a.path.getLast? = some word) :
    word.toList <:+ a.target.toList := by
  obtain ⟨before, hpath⟩ := List.getLast?_eq_some_iff.1 last
  rw [target, String.toList_append, query, hpath, List.map_append, String.join_append,
    String.toList_append]
  simpa using (List.suffix_cons '/' word.toList).trans (List.suffix_append _ _)


-- ---------------------------------------------------------------------------
-- Reading up to the end
-- ---------------------------------------------------------------------------

/-- A word of small letters, of which the reader keeps every one. -/
structure IsPlain (word : String) : Prop where
  letters : word.toList.all Char.isLower = true
  nonempty : word.toList ≠ []
  one : plainDots word.toList ≠ "."
  two : plainDots word.toList ≠ ".."

/-- What stands in front of the last word of an endpoint. -/
def endpointFront : List Char := "/api/auth/".toList

theorem IsPlain.isLower (plain : IsPlain word) {c : Char} (hc : c ∈ word.toList) :
    c.isLower = true :=
  List.all_eq_true.1 plain.letters c hc

theorem IsPlain.not_mem (plain : IsPlain word) {mark : Char} (hmark : mark.isLower = false) :
    mark ∉ word.toList := fun hc => by
  rw [plain.isLower hc] at hmark
  cases hmark

theorem IsPlain.not_mem_append (plain : IsPlain word) {mark : Char} {front : List Char}
    (hfront : mark ∉ front) (hmark : mark.isLower = false) : mark ∉ front ++ word.toList := by
  rw [List.mem_append, not_or]
  exact ⟨hfront, plain.not_mem hmark⟩

theorem lower_range {c : Char} (h : c.isLower = true) : 0x61 ≤ c.toNat ∧ c.toNat ≤ 0x7a := by
  have hrange : (decide (c.val ≥ 'a'.val) && decide (c.val ≤ 'z'.val)) = true := h
  simp only [Bool.and_eq_true, decide_eq_true_eq] at hrange
  exact hrange

theorem IsPlain.escape (plain : IsPlain word) (marks : special.toList.all (!·.isLower) = true) :
    escape special word.toList = word := by
  have hkept : word.toList.flatMap (fun c =>
      if c.toNat ≤ 0x20 ∨ 0x7F ≤ c.toNat ∨ special.toList.contains c then
        (String.utf8EncodeChar c).flatMap escapedByte
      else [c]) = word.toList.flatMap fun c => [c] := by
    refine List.flatMap_congr fun c hc => if_neg ?_
    have hlower := plain.isLower hc
    obtain ⟨hlow, hhigh⟩ := lower_range hlower
    rintro (h | h | h)
    · omega
    · omega
    · have := List.all_eq_true.1 marks c (List.contains_iff_mem.1 h)
      simp [hlower] at this
  rw [Address.escape, hkept, List.flatMap_singleton', String.ofList_toList]

theorem IsPlain.filter (plain : IsPlain word) :
    word.toList.filter (fun c => c != '\t' && c != '\n' && c != '\r') = word.toList := by
  refine List.filter_eq_self.2 fun c hc => ?_
  obtain ⟨hlow, -⟩ := lower_range (plain.isLower hc)
  simp only [Bool.and_eq_true, bne_iff_ne]
  refine ⟨⟨?_, ?_⟩, ?_⟩
  all_goals
    rintro rfl
    exact absurd hlow (by decide)

/-- A text that ends with a plain word is not cut at its end. -/
theorem legible_of_suffix (plain : IsPlain word) (ends : word.toList <:+ text.toList) :
    legible text = text.toList.filter fun c => c != '\t' && c != '\n' && c != '\r' := by
  obtain ⟨front, hfront⟩ := ends
  rw [legible, ← hfront, List.filter_append, plain.filter]
  exact List.rdropWhile_eq_self_iff.2 fun hne => by
    obtain ⟨hlow, -⟩ := lower_range (plain.isLower (List.getLast_mem plain.nonempty))
    rw [List.getLast_append_of_ne_nil _ plain.nonempty, decide_eq_true_eq]
    omega

theorem suffix_legible (plain : IsPlain word)
    (ends : endpointFront ++ word.toList <:+ text.toList) :
    endpointFront ++ word.toList <:+ legible text := by
  rw [legible_of_suffix plain ((List.suffix_append _ _).trans ends)]
  obtain ⟨front, hfront⟩ := ends
  rw [← hfront, List.filter_append, List.filter_append, plain.filter]
  exact List.suffix_append _ _

theorem cutAt_of_forall_mem {p : Char → Bool} (h : ∀ c ∈ cs, p c = false) :
    cutAt p cs = (cs, []) := by
  have hkept : ∀ c ∈ cs, (!p c) = true := fun c hc => by rw [h c hc, Bool.not_false]
  rw [cutAt, List.takeWhile_eq_self_iff.2 hkept, List.dropWhile_eq_nil_iff.2 hkept]

theorem cutAt_append_cons {p : Char → Bool} {mark : Char} (h : ∀ c ∈ cs, p c = false)
    (hmark : p mark = true) (rest : List Char) :
    cutAt p (cs ++ mark :: rest) = (cs, mark :: rest) := by
  have hkept : ∀ c ∈ cs, (!p c) = true := fun c hc => by rw [h c hc, Bool.not_false]
  rw [cutAt, List.takeWhile_append_of_pos hkept, List.dropWhile_append_of_pos hkept]
  simp [hmark]

/-- Behind a scheme comes its colon, if the text is more than the scheme. -/
theorem exists_cutAt_colon {usual : Nat}
    (known : [("http", 80), ("https", 443)].lookup (String.ofList (cutAt (· == ':') cs).1) =
      some usual) (slash : '/' ∈ cs) : ∃ rest, (cutAt (· == ':') cs).2 = ':' :: rest := by
  have hscheme : '/' ∉ (String.ofList (cutAt (· == ':') cs).1).toList := by
    obtain ⟨before, after, hmem, -⟩ := List.lookup_eq_some_iff.1 known
    have hknown : (String.ofList (cutAt (· == ':') cs).1, usual) ∈
        [("http", 80), ("https", 443)] := by
      rw [hmem]
      exact List.mem_append_right _ List.mem_cons_self
    simp only [List.mem_cons, List.not_mem_nil, or_false, Prod.mk.injEq] at hknown
    rcases hknown with ⟨h, -⟩ | ⟨h, -⟩
    all_goals
      rw [h]
      decide
  rw [String.toList_ofList] at hscheme
  have hsplit : (cutAt (· == ':') cs).1 ++ (cutAt (· == ':') cs).2 = cs :=
    List.takeWhile_append_dropWhile
  cases hrest : (cutAt (· == ':') cs).2 with
  | nil =>
    rw [hrest, List.append_nil] at hsplit
    rw [hsplit] at hscheme
    exact absurd slash hscheme
  | cons c rest =>
    have hstop := List.head?_dropWhile_not (fun c => !(c == ':')) cs
    have hhead : (cs.dropWhile fun c => !(c == ':')).head? = some c := congrArg List.head? hrest
    rw [hhead] at hstop
    exact ⟨rest, by rw [show c = ':' by simpa using hstop]⟩

/-- What stands behind the authority of an address. -/
def behindAuthority (text : String) : List Char :=
  (cutAt (fun c => isSlash c || c == '?' || c == '#')
    (((cutAt (· == ':') (legible text)).2.drop 1).dropWhile isSlash)).2

/-- The path and the query are read from what stands behind the authority. -/
theorem path_and_query_of_ofText? (h : ofText? text = some a) :
    a.path = resolve []
      (((cutAt (fun c => c == '?' || c == '#') (behindAuthority text)).1.drop 1).splitOnP isSlash) ∧
    a.query = (behindMark '?' (cutAt (· == '#')
      (cutAt (fun c => c == '?' || c == '#') (behindAuthority text)).2).1).map
        (escape "\"#<>\x27") := by
  unfold ofText? at h
  simp only [Option.bind_eq_bind, Option.bind_eq_some_iff] at h
  obtain ⟨usual, -, host, -, socket, -, h⟩ := h
  have hpath := congrArg Address.path (Option.some.inj h)
  have hquery := congrArg Address.query (Option.some.inj h)
  dsimp only at hpath hquery
  exact ⟨hpath.symm, hquery.symm⟩

theorem behindAuthority_suffix (text : String) : behindAuthority text <:+ legible text :=
  (List.dropWhile_suffix _).trans ((List.dropWhile_suffix _).trans
    ((List.drop_suffix _ _).trans (List.dropWhile_suffix _)))

/-- The authority reaches into the path of an endpoint by its first segment at most. -/
theorem suffix_behindAuthority (plain : IsPlain word) (h : ofText? text = some a)
    (ends : endpointFront ++ word.toList <:+ text.toList) :
    "/auth/".toList ++ word.toList <:+ behindAuthority text := by
  have hends := suffix_legible plain ends
  unfold ofText? at h
  simp only [Option.bind_eq_bind, Option.bind_eq_some_iff] at h
  obtain ⟨usual, husual, -⟩ := h
  obtain ⟨rest, hrest⟩ := exists_cutAt_colon husual
    (hends.subset (List.mem_append_left _ (by decide)))
  have hcolon : ':' ∉ endpointFront ++ word.toList :=
    plain.not_mem_append (by decide) (by decide)
  have hbehind : endpointFront ++ word.toList <:+ rest := by
    have hsplit : (cutAt (· == ':') (legible text)).1 ++ ':' :: rest = legible text := by
      rw [← hrest]
      exact List.takeWhile_append_dropWhile
    exact suffix_of_suffix_append_cons hcolon (hsplit ▸ hends)
  have hhost : 'a' :: ("pi/auth/".toList ++ word.toList) <:+ rest.dropWhile isSlash :=
    suffix_dropWhile (by decide) ((List.suffix_cons '/' _).trans hbehind)
  rw [behindAuthority, hrest]
  exact suffix_dropWhile (by decide) (List.IsSuffix.trans ⟨"api".toList, rfl⟩ hhost)

theorem beq_eq_false_of_not_mem {c mark : Char} (absent : mark ∉ cs) (hc : c ∈ cs) :
    (c == mark) = false :=
  beq_eq_false_iff_ne.2 fun h => absent (h ▸ hc)

theorem legible_subset (text : String) : legible text ⊆ text.toList := fun _ hc =>
  List.filter_subset_self _ ((List.rdropWhile_prefix _ _).subset hc)

theorem IsPlain.isSlash (plain : IsPlain word) : ∀ c ∈ word.toList, isSlash c = false := by
  intro c hc
  rw [Address.isSlash, beq_eq_false_of_not_mem (plain.not_mem (by decide)) hc,
    beq_eq_false_of_not_mem (plain.not_mem (by decide)) hc, Bool.or_false]

/-- A plain word is a segment that stays as it is. -/
theorem resolve_cons_of_isPlain (plain : IsPlain word) (done : List String)
    (rest : List (List Char)) :
    resolve done (word.toList :: rest) = resolve (done ++ [word]) rest := by
  rw [resolve]
  split
  · exact absurd ‹_› plain.one
  · exact absurd ‹_› plain.two
  · rw [plain.escape (by decide)]

/-- The target of an endpoint ends with its last word, if the address has no fragment. -/
theorem suffix_target_of_ofText? (plain : IsPlain word) (h : ofText? text = some a)
    (ends : endpointFront ++ word.toList <:+ text.toList) (whole : '#' ∉ text.toList) :
    word.toList <:+ a.target.toList := by
  obtain ⟨hpath, hquery⟩ := path_and_query_of_ofText? h
  have hends := suffix_behindAuthority plain h ends
  have hwhole : '#' ∉ behindAuthority text := fun hc =>
    whole (legible_subset text ((behindAuthority_suffix text).subset hc))
  generalize behindAuthority text = cs at hpath hquery hends hwhole
  by_cases hasQuery : '?' ∈ cs
  · obtain ⟨path, rest, rfl, hfirst⟩ := List.eq_append_cons_of_mem hasQuery
    rw [List.mem_append, not_or] at hwhole
    have hquiet : ∀ c ∈ path, (c == '?' || c == '#') = false := fun c hc => by
      rw [beq_eq_false_of_not_mem hfirst hc, beq_eq_false_of_not_mem hwhole.1 hc, Bool.or_false]
    have hkept : ∀ c ∈ '?' :: rest, (c == '#') = false := fun c hc =>
      beq_eq_false_of_not_mem hwhole.2 hc
    rw [cutAt_append_cons hquiet rfl, cutAt_of_forall_mem hkept] at hquery
    have hmark : '?' ∉ "/auth/".toList ++ word.toList :=
      plain.not_mem_append (by decide) (by decide)
    refine suffix_target_of_query hquery ?_
    exact suffix_escape (plain.escape (by decide))
      ((List.suffix_append _ _).trans (suffix_of_suffix_append_cons hmark hends))
  · have hkept : ∀ c ∈ cs, (c == '?' || c == '#') = false := fun c hc => by
      rw [beq_eq_false_of_not_mem hasQuery hc, beq_eq_false_of_not_mem hwhole hc, Bool.or_false]
    rw [cutAt_of_forall_mem hkept] at hpath hquery
    have hend : 'h' :: '/' :: word.toList <:+ cs := List.IsSuffix.trans ⟨"/aut".toList, rfl⟩ hends
    obtain ⟨before, hbefore⟩ := suffix_drop_one hend
    have hsegments : ((cs.drop 1).splitOnP isSlash).getLast? = some word.toList := by
      rw [← hbefore, List.splitOnP_append_cons _ _ (by decide),
        List.splitOnP_eq_singleton plain.isSlash, List.getLast?_concat]
    refine suffix_target_of_path hquery ?_
    rw [hpath, getLast?_resolve hsegments plain.one plain.two, plain.escape (by decide)]


-- ---------------------------------------------------------------------------
-- Reading behind an authority
-- ---------------------------------------------------------------------------

/-- A character that can stand in an authority: it counts, and nothing begins with it. -/
def isAuthorityChar (c : Char) : Bool :=
  !(isSlash c || c == '?' || c == '#') && (c != '\t' && c != '\n' && c != '\r')

theorem isAuthorityChar_iff {c : Char} :
    isAuthorityChar c = true ↔
      (isSlash c || c == '?' || c == '#') = false ∧
        (c != '\t' && c != '\n' && c != '\r') = true := by
  rw [isAuthorityChar, Bool.and_eq_true, Bool.not_eq_true']

/-- Behind a scheme comes what is behind its slashes. -/
theorem cutAt_colon_of_scheme {scheme : String} (known : scheme ∈ httpSchemes) (cs : List Char) :
    (cutAt (· == ':') (scheme.toList ++ cs)).2 = ':' :: '/' :: '/' :: cs := by
  have hcut (name : List Char) (h : ':' ∉ name) :
      (cutAt (· == ':') (name ++ ':' :: '/' :: '/' :: cs)).2 = ':' :: '/' :: '/' :: cs := by
    rw [cutAt_append_cons (fun c hc => beq_eq_false_of_not_mem h hc) (by decide)]
  simp only [httpSchemes, List.mem_cons, List.not_mem_nil, or_false] at known
  rcases known with rfl | rfl
  · exact hcut "http".toList (by decide)
  · exact hcut "https".toList (by decide)

theorem target_of_segments (path : a.path = ["api", "auth", word]) (query : a.query = none) :
    a.target.toList = endpointFront ++ word.toList := by
  have hfront : endpointFront =
      "/".toList ++ "api".toList ++ ("/".toList ++ "auth".toList ++ "/".toList) := by
    decide
  rw [target, path, query, hfront]
  simp only [List.map_cons, List.map_nil, String.join_cons, String.join_nil, String.toList_append,
    String.toList_empty, Option.map_none, Option.getD_none, List.append_nil, List.append_assoc]

theorem isPlain_api : IsPlain "api" := by
  constructor <;> decide

theorem isPlain_auth : IsPlain "auth" := by
  constructor <;> decide

section

variable {scheme : String} {authority : List Char} (plain : IsPlain word)
  (known : scheme ∈ httpSchemes) (kept : authority.all isAuthorityChar = true)
  (htext : text.toList = scheme.toList ++ (authority ++ (endpointFront ++ word.toList)))
include plain known kept htext

theorem legible_eq_toList : legible text = text.toList := by
  have hends : word.toList <:+ text.toList := by
    rw [htext, ← List.append_assoc, ← List.append_assoc]
    exact List.suffix_append _ _
  have hauthority := List.filter_eq_self.2 fun c hc =>
    (isAuthorityChar_iff.1 (List.all_eq_true.1 kept c hc)).2
  rw [legible_of_suffix plain hends, htext, List.filter_append, List.filter_append,
    List.filter_append, hauthority, plain.filter]
  simp only [httpSchemes, List.mem_cons, List.not_mem_nil, or_false] at known
  rcases known with rfl | rfl <;> rfl

theorem behindAuthority_eq (nonempty : authority ≠ []) :
    behindAuthority text = endpointFront ++ word.toList := by
  have hquiet (c : Char) (hc : c ∈ authority) : (isSlash c || c == '?' || c == '#') = false :=
    (isAuthorityChar_iff.1 (List.all_eq_true.1 kept c hc)).1
  have hfront (cs : List Char) : (authority ++ cs).dropWhile isSlash = authority ++ cs := by
    cases authority with
    | nil => exact absurd rfl nonempty
    | cons c rest =>
      have hslash := hquiet c List.mem_cons_self
      rw [Bool.or_eq_false_iff, Bool.or_eq_false_iff] at hslash
      simp [hslash.1.1]
  have hcut : cutAt (fun c => isSlash c || c == '?' || c == '#')
      (authority ++ '/' :: ("api/auth/".toList ++ word.toList)) = (authority, _) :=
    cutAt_append_cons hquiet (by decide) _
  rw [behindAuthority, legible_eq_toList plain known kept htext, htext, cutAt_colon_of_scheme known]
  show (cutAt _ ((authority ++ _).dropWhile isSlash)).2 = _
  rw [hfront]
  exact congrArg Prod.snd hcut

/-- Behind a scheme and an authority, the path is read as it is written. -/
theorem path_of_ofText? (nonempty : authority ≠ []) (h : ofText? text = some a) :
    a.path = ["api", "auth", word] ∧ a.query = none := by
  have hbehind := behindAuthority_eq plain known kept htext nonempty
  obtain ⟨hpath, hquery⟩ := path_and_query_of_ofText? h
  have hquiet : ∀ c ∈ endpointFront ++ word.toList, (c == '?' || c == '#') = false := by
    intro c hc
    rw [beq_eq_false_of_not_mem (plain.not_mem_append (by decide) (by decide)) hc,
      beq_eq_false_of_not_mem (plain.not_mem_append (by decide) (by decide)) hc, Bool.or_false]
  rw [hbehind, cutAt_of_forall_mem hquiet] at hpath hquery
  refine ⟨hpath.trans ?_, hquery⟩
  have hsegments : ((endpointFront ++ word.toList).drop 1).splitOnP isSlash =
      ["api".toList, "auth".toList, word.toList] := by
    show ("api".toList ++ '/' :: ("auth".toList ++ '/' :: word.toList)).splitOnP isSlash = _
    rw [List.splitOnP_append_cons _ _ (by decide), List.splitOnP_append_cons _ _ (by decide),
      List.splitOnP_eq_singleton plain.isSlash]
    rfl
  rw [hsegments, resolve_cons_of_isPlain isPlain_api, resolve_cons_of_isPlain isPlain_auth,
    resolve_cons_of_isPlain plain]
  rfl

end

end Address


-- ---------------------------------------------------------------------------
-- Targets of endpoints
-- ---------------------------------------------------------------------------

namespace HttpClient

/-- What the client's requests for a path ask for. -/
def target? (client : HttpClient) (path : String) : Option String :=
  (Address.ofText? (client.url path)).map (·.target)

/-- The base is a scheme and an authority, with nothing behind them. -/
def IsOrigin (client : HttpClient) : Prop :=
  ∃ scheme ∈ httpSchemes, ∃ authority, client.baseUrl.toList = scheme.toList ++ authority ∧
    authority ≠ [] ∧ authority.all Address.isAuthorityChar = true

section

variable {client : HttpClient} {word path target : String} (plain : Address.IsPlain word)
  (hpath : path.toList = Address.endpointFront ++ word.toList)
include hpath

theorem toList_url_of_endpoint (client : HttpClient) :
    (client.url path).toList =
      client.baseUrl.toList ++ (Address.endpointFront ++ word.toList) := by
  have hslash : path.toList.head? = some '/' := by
    rw [hpath]
    rfl
  rw [url, if_pos hslash, String.toList_append, hpath]

include plain

/-- The target of an endpoint ends with its last word, if the base has no fragment. -/
theorem suffix_of_target? (whole : '#' ∉ client.baseUrl.toList)
    (h : client.target? path = some target) : word.toList <:+ target.toList := by
  obtain ⟨a, ha, rfl⟩ := Option.map_eq_some_iff.1 h
  have hurl := toList_url_of_endpoint hpath client
  refine Address.suffix_target_of_ofText? plain ha (hurl ▸ List.suffix_append _ _) ?_
  rw [hurl, List.mem_append, not_or]
  exact ⟨whole, plain.not_mem_append (by decide) (by decide)⟩

/-- The target of an endpoint is its path, if the base has none of its own. -/
theorem target?_of_isOrigin (origin : client.IsOrigin) (h : client.target? path = some target) :
    target = path := by
  obtain ⟨scheme, known, authority, hbase, nonempty, kept⟩ := origin
  obtain ⟨a, ha, rfl⟩ := Option.map_eq_some_iff.1 h
  have hurl := toList_url_of_endpoint hpath client
  rw [hbase, List.append_assoc] at hurl
  obtain ⟨hsegments, hquery⟩ := Address.path_of_ofText? plain known kept hurl nonempty ha
  rw [← String.toList_inj, hpath, Address.target_of_segments hsegments hquery]

end

theorem isPlain_login : Address.IsPlain "login" := by
  constructor <;> decide

theorem isPlain_logout : Address.IsPlain "logout" := by
  constructor <;> decide

/-- Logins and logouts go to different targets, unless the base has a fragment. -/
theorem target_login_ne_logout {client : HttpClient} (whole : '#' ∉ client.baseUrl.toList)
    {target : String} (h : client.target? AuthEndpoint.login = some target) :
    client.target? AuthEndpoint.logout ≠ some target := by
  intro h'
  have hlogin := suffix_of_target? isPlain_login rfl whole h
  have hlogout := suffix_of_target? isPlain_logout rfl whole h'
  -- The two ends differ in their last character.
  have hlast := (hlogin.getLast isPlain_login.nonempty).trans
    (hlogout.getLast isPlain_logout.nonempty).symm
  exact absurd hlast (by decide)

end HttpClient

end DashboardClient
