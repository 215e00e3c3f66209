import Sentry.Strategy.Candidates

/-!
# Packets are canonical

What a packet says depends on what its facts and identifiers are, not on how they were listed or
when they were put together, and a packet that was built is available from then on.
-/
namespace Sentry

open Support

namespace Candidates

section

variable {py : CandidateRuntime} {b : CandidatePacketBuilder} {facts others : List (CandidateFact py)}
  {now now' : Time} {packet : CandidatePacket} {request other : PacketRequest py}

/-! ### The facts -/

/-- The facts have names of their own, and the clock shows all of them. -/
def Usable (facts : List (CandidateFact py)) (now : Time) : Prop :=
  (facts.map CandidateFact.factId).Nodup ∧
    ∀ fact ∈ facts, fact.effectiveAt ≤ now ∧ fact.observedAt ≤ now

theorem normalizeFacts_sequence {r : Dict String AnyValue × List String × Time} :
    normalizeFacts py now (.sequence facts) = .ok r ↔ Usable facts now ∧
      r = (factMap py (ranking CandidateFact.factId facts),
        (ranking CandidateFact.factId facts).map CandidateFact.sourceId,
        latest py (ranking CandidateFact.factId facts) now) := by
  rw [normalizeFacts]
  by_cases unique : (facts.map CandidateFact.factId).Nodup
  · rw [if_neg (not_not.mpr unique)]
    split
    next fact early =>
      have member := List.mem_of_find?_eq_some early
      have future := List.find?_some early
      simp only [Bool.or_eq_true, decide_eq_true_eq] at future
      simp only [reduceCtorEq, false_iff, not_and]
      intro usable
      obtain ⟨effective, observed⟩ := usable.2 fact member
      rcases future with late | late
      · exact absurd late (not_lt.mpr effective)
      · exact absurd late (not_lt.mpr observed)
    next none =>
      have usable : Usable facts now := by
        refine ⟨unique, fun fact member => ?_⟩
        have shown := List.find?_eq_none.mp none fact member
        simpa [not_or, not_lt] using shown
      simp only [Except.ok.injEq, usable, true_and]
      exact eq_comm
  · rw [if_pos unique]
    simp [Usable, unique]

theorem distinguished_of_usable (usable : Usable facts now) :
    Distinguished CandidateFact.factId facts :=
  List.pairwise_map.mp usable.1

theorem ranking_perm_eq (usable : Usable facts now) (perm : facts.Perm others) :
    ranking CandidateFact.factId facts = ranking CandidateFact.factId others :=
  ranking_eq_of_perm (distinguished_of_usable usable) perm

theorem Usable.later (usable : Usable facts now) (perm : facts.Perm others) (order : now ≤ now') :
    Usable others now' := by
  refine ⟨(perm.map _).nodup_iff.mp usable.1, fun fact member => ?_⟩
  obtain ⟨effective, observed⟩ := usable.2 fact (perm.mem_iff.mpr member)
  exact ⟨effective.trans order, observed.trans order⟩

theorem latest_of_ne_nil (given : facts ≠ []) (now now' : Time) :
    latest py facts now = latest py facts now' := by
  obtain ⟨fact, rest, rfl⟩ := List.exists_cons_of_ne_nil given
  simp [latest]

/-- The latest time is one of a fact, and none is later. -/
theorem isGreatest_latest (given : facts ≠ []) (now : Time) :
    IsGreatest {t | ∃ fact ∈ facts, t = fact.effectiveAt ∨ t = fact.observedAt}
      (latest py facts now) := by
  obtain ⟨fact, rest, rfl⟩ := List.exists_cons_of_ne_nil given
  obtain ⟨t, found⟩ : ∃ t,
      (((fact :: rest).map fun fact => max fact.effectiveAt fact.observedAt).max?) = some t := by
    simp
  have is : latest py (fact :: rest) now = t := by rw [latest, found, Option.getD_some]
  obtain ⟨member, bound⟩ := List.max?_eq_some_iff.mp found
  rw [is]
  constructor
  · obtain ⟨last, inside, rfl⟩ := List.mem_map.mp member
    exact ⟨last, inside, max_choice _ _⟩
  · rintro s ⟨early, inside, is | is⟩
    · rw [is]
      exact (le_max_left _ _).trans (bound _ (List.mem_map_of_mem inside))
    · rw [is]
      exact (le_max_right _ _).trans (bound _ (List.mem_map_of_mem inside))

/-! ### Putting a packet together -/

variable {c : Contents}

theorem candidatePacket_ok {packetId : UUID} (built : candidatePacket now packetId c = .ok packet) :
    packet.createdAt = now ∧ packet.packetId = packetId ∧ packet.facts = c.facts ∧
      packet.availableAt = .aware c.availableAt := by
  rw [candidatePacket] at built
  split at built
  · cases built
    exact ⟨rfl, rfl, rfl, rfl⟩
  · cases built

theorem candidatePacket_later {packetId : UUID} (built : candidatePacket now packetId c = .ok packet)
    (now' : Time) : candidatePacket now' packetId c = .ok { packet with createdAt := now' } := by
  rw [candidatePacket] at built ⊢
  split at built
  next range =>
    cases built
    rw [dif_pos range]
  next => cases built

theorem assemble_ok (built : assemble py b now c = .ok packet) :
    ∃ digest manifest, py.sha256Json (identityPayload c) = .ok digest ∧
      candidatePacket now (py.uuid5 digest) c = .ok packet ∧ inspectPacket py packet = .ok manifest ∧
      ¬manifest.estimatedTokens > b.maximumEstimatedTokens := by
  obtain ⟨digest, hashed, built⟩ := bind_ok built
  obtain ⟨whole, valid, built⟩ := bind_ok built
  obtain ⟨manifest, inspected, built⟩ := bind_ok built
  split at built
  · cases built
  next short =>
    cases built
    exact ⟨digest, manifest, hashed, valid, inspected, short⟩

theorem assemble_later (built : assemble py b now c = .ok packet) (now' : Time) :
    assemble py b now' c = .ok { packet with createdAt := now' } := by
  obtain ⟨digest, manifest, hashed, valid, inspected, short⟩ := assemble_ok built
  have later := candidatePacket_later valid now'
  have shown : inspectPacket py { packet with createdAt := now' } = .ok manifest := inspected
  simp only [assemble, hashed, later, shown, bind, Except.bind]
  rw [if_neg short]
  rfl

/-! ### Building -/

/-- What a packet of some facts says. -/
def contents (request : PacketRequest py) (facts : List (CandidateFact py)) (now : Time) : Contents where
  runId := request.runId
  symbol := py.upper (strip request.symbol)
  attention := request.attention
  surveillanceScore := request.surveillanceScore
  facts := factMap py (ranking CandidateFact.factId facts)
  sourceIds := sortedSet id (request.sourceIds ++
    (ranking CandidateFact.factId facts).map CandidateFact.sourceId)
  marketSnapshotIds := sortedSet (fun id => id.val.str) request.marketSnapshotIds
  availableAt := latest py (ranking CandidateFact.factId facts) now

theorem build_sequence (given : request.facts = .sequence facts) :
    build py b (.aware now) request = .ok packet ↔ py.upper (strip request.symbol) ≠ "" ∧
      Usable facts now ∧ assemble py b now (contents request facts now) = .ok packet := by
  constructor
  · intro built
    obtain ⟨_, same, built⟩ := bind_ok built
    cases same
    simp only at built
    split at built
    · cases built
    next named =>
      obtain ⟨r, normalized, built⟩ := bind_ok built
      rw [given] at normalized
      obtain ⟨usable, rfl⟩ := normalizeFacts_sequence.mp normalized
      exact ⟨named, usable, built⟩
  · rintro ⟨named, usable, built⟩
    have normalized := normalizeFacts_sequence.mpr ⟨usable, rfl⟩
    simp only [build, awareUtc, given, normalized, bind, Except.bind, named, if_false]
    exact built

theorem availableAt_of_nil : (contents request [] now).availableAt = now := by
  simp [contents, latest, ranking]

theorem availableAt_of_ne_nil (request : PacketRequest py) (now : Time) (given : facts ≠ []) :
    IsGreatest {t | ∃ fact ∈ facts, t = fact.effectiveAt ∨ t = fact.observedAt}
      (contents request facts now).availableAt := by
  have same := ranking_perm CandidateFact.factId facts
  have nonempty : ranking CandidateFact.factId facts ≠ [] := fun empty =>
    given (List.perm_nil.mp (empty ▸ same.symm))
  have greatest := isGreatest_latest nonempty now
  simp only [same.mem_iff] at greatest
  exact greatest

theorem availableAt_le (request : PacketRequest py) (usable : Usable facts now) :
    (contents request facts now).availableAt ≤ now := by
  by_cases none : facts = []
  · subst none
    exact availableAt_of_nil.le
  · obtain ⟨⟨fact, member, is⟩, -⟩ := availableAt_of_ne_nil request now none
    obtain ⟨effective, observed⟩ := usable.2 fact member
    rcases is with is | is
    · exact is.trans_le effective
    · exact is.trans_le observed

/-- The same request, with its facts in another order and its identifiers listed in any way. -/
structure Rearranged (request other : PacketRequest py) (facts others : List (CandidateFact py)) :
    Prop where
  given : request.facts = .sequence facts
  given' : other.facts = .sequence others
  runId : other.runId = request.runId
  symbol : other.symbol = request.symbol
  attention : other.attention = request.attention
  surveillanceScore : other.surveillanceScore = request.surveillanceScore
  facts : facts.Perm others
  sourceIds : ∀ source, source ∈ request.sourceIds ↔ source ∈ other.sourceIds
  marketSnapshotIds : ∀ id, id ∈ request.marketSnapshotIds ↔ id ∈ other.marketSnapshotIds

theorem contents_rearranged (rearranged : Rearranged request other facts others)
    (usable : Usable facts now) (settled : now' = now ∨ facts ≠ []) :
    contents other others now' = contents request facts now := by
  have ordered := ranking_perm_eq usable rearranged.facts
  have sources : sortedSet id (other.sourceIds ++
        (ranking CandidateFact.factId facts).map CandidateFact.sourceId) =
      sortedSet id (request.sourceIds ++
        (ranking CandidateFact.factId facts).map CandidateFact.sourceId) := by
    apply sortedSet_congr (fun _ _ => id)
    intro source
    rw [List.mem_append, List.mem_append, rearranged.sourceIds]
  have snapshots : sortedSet (fun id : WideUUID => id.val.str) other.marketSnapshotIds =
      sortedSet (fun id => id.val.str) request.marketSnapshotIds :=
    sortedSet_congr (fun _ _ => UUID.str_injective) fun id => (rearranged.marketSnapshotIds id).symm
  have time : latest py (ranking CandidateFact.factId facts) now' =
      latest py (ranking CandidateFact.factId facts) now := by
    rcases settled with rfl | some
    · rfl
    · apply latest_of_ne_nil
      intro none
      exact some (List.perm_nil.mp (none ▸ (ranking_perm CandidateFact.factId facts).symm))
  simp only [contents, ← ordered, rearranged.runId, rearranged.symbol, rearranged.attention,
    rearranged.surveillanceScore, sources, snapshots, time]

/-- Another listing of the same request, perhaps later, gives the same packet but for the time at
which it was made. -/
theorem build_rearranged (rearranged : Rearranged request other facts others)
    (built : build py b (.aware now) request = .ok packet) (order : now ≤ now')
    (settled : now' = now ∨ facts ≠ []) :
    build py b (.aware now') other = .ok { packet with createdAt := now' } := by
  obtain ⟨named, usable, assembled⟩ := (build_sequence rearranged.given).mp built
  refine (build_sequence rearranged.given').mpr ⟨?_, usable.later rearranged.facts order, ?_⟩
  · rwa [rearranged.symbol]
  · rw [contents_rearranged rearranged usable settled]
    exact assemble_later assembled now'

/-! ### Availability -/

theorem checkTime_isoformat (py : CandidateRuntime) (factId key : String) {t : Time} (range : t.Representable)
    (past : t ≤ now) : checkTime py now factId key (some (text t.isoformat)) = .ok () := by
  simp only [checkTime, text, Timestamps.fromisoformat_isoformat range, awareUtc, bind, Except.bind]
  rw [if_neg (not_lt.mpr past)]
  rfl

theorem checkFact_entry {fact : CandidateFact py} (effective : fact.effectiveAt ≤ now)
    (observed : fact.observedAt ≤ now) : checkFact py now (fact.factId, entry fact) = .ok () := by
  have early := checkTime_isoformat py fact.factId "effective_at"
    fact.effectiveAt_representable effective
  have late := checkTime_isoformat py fact.factId "observed_at"
    fact.observedAt_representable observed
  have first : Dict.lookup (.str "effective_at") [(AnyKey.str "value", fact.value),
      (.str "source_id", text fact.sourceId), (.str "effective_at", text fact.effectiveAt.isoformat),
      (.str "observed_at", text fact.observedAt.isoformat),
      (.str "inference", .scalar (.bool fact.inference))] = some (text fact.effectiveAt.isoformat) := by
    simp [Dict.lookup]
  have second : Dict.lookup (.str "observed_at") [(AnyKey.str "value", fact.value),
      (.str "source_id", text fact.sourceId), (.str "effective_at", text fact.effectiveAt.isoformat),
      (.str "observed_at", text fact.observedAt.isoformat),
      (.str "inference", .scalar (.bool fact.inference))] = some (text fact.observedAt.isoformat) := by
    simp [Dict.lookup]
  simp only [checkFact, entry, first, second, early, late, bind, Except.bind]

theorem validate_of_build (given : request.facts = .sequence facts)
    (built : build py b (.aware now) request = .ok packet) {reading : Time} (order : now ≤ reading) :
    validatePacketAvailability py packet (.aware reading) = .ok () := by
  obtain ⟨-, usable, assembled⟩ := (build_sequence given).mp built
  obtain ⟨digest, manifest, -, valid, -, -⟩ := assemble_ok assembled
  obtain ⟨-, -, map, available⟩ := candidatePacket_ok valid
  have past := (availableAt_le request usable).trans order
  have each : ∀ entry ∈ packet.facts.entries, checkFact py reading entry = .ok () := by
    have names : ((ranking CandidateFact.factId facts).map fun fact =>
        (fact.factId, entry fact)).map Prod.fst =
        (ranking CandidateFact.factId facts).map CandidateFact.factId := by
      simp [Function.comp_def]
    have distinct := ((ranking_perm CandidateFact.factId facts).map CandidateFact.factId).nodup_iff.mpr
      usable.1
    rw [map, contents, factMap, Dict.entries_ofPairs (names ▸ distinct)]
    intro entry member
    obtain ⟨fact, inside, rfl⟩ := List.mem_map.mp member
    obtain ⟨effective, observed⟩ := usable.2 fact ((ranking_perm _ _).mem_iff.mp inside)
    exact checkFact_entry (effective.trans order) (observed.trans order)
  simp only [validatePacketAvailability, awareUtc, available, bind, Except.bind]
  rw [if_neg (not_lt.mpr past)]
  exact forM_ok _ each

theorem contentHash_of_inspect {manifest : PacketManifest}
    (inspected : inspectPacket py packet = .ok manifest) :
    contentHash py packet = .ok manifest.packetHash := by
  obtain ⟨value, dumped, inspected⟩ := bind_ok inspected
  obtain ⟨encoded, -, inspected⟩ := bind_ok inspected
  obtain ⟨digest, hashed, inspected⟩ := bind_ok inspected
  split at inspected
  · cases inspected
    simp only [contentHash, dumped, hashed, bind, Except.bind]
  · cases inspected

/-- A packet built from a sequence of facts is the same packet for every listing of the request,
and at every later time if there are facts; it is available since its latest fact, and passes the
check at every time from then on at which it exists. -/
theorem build_canonical {clock : Datetime} (given : request.facts = .sequence facts)
    (built : build py b clock request = .ok packet) :
    ∃ now available manifest, clock = .aware now ∧ packet.availableAt = .aware available ∧
      contentHash py packet = .ok manifest.packetHash ∧ inspectPacket py packet = .ok manifest ∧
      (∀ other others now', Rearranged request other facts others → now ≤ now' →
        (now' = now ∨ facts ≠ []) → ∃ packet', build py b (.aware now') other = .ok packet' ∧
          packet'.packetId = packet.packetId ∧
          contentHash py packet' = .ok manifest.packetHash ∧
          inspectPacket py packet' = .ok manifest) ∧
      available ≤ now ∧ (facts = [] → available = now) ∧
      (facts ≠ [] → IsGreatest {t | ∃ fact ∈ facts, t = fact.effectiveAt ∨ t = fact.observedAt}
        available) ∧
      ∀ reading, now ≤ reading → validatePacketAvailability py packet (.aware reading) = .ok () := by
  obtain ⟨now, same, -⟩ := bind_ok built
  obtain rfl : clock = .aware now := by
    cases clock with
    | aware utc => exact congrArg Datetime.aware (Except.ok.inj same)
    | naive wall => cases same
  obtain ⟨-, usable, assembled⟩ := (build_sequence given).mp built
  obtain ⟨digest, manifest, -, valid, inspected, -⟩ := assemble_ok assembled
  obtain ⟨-, -, -, available⟩ := candidatePacket_ok valid
  have hash := contentHash_of_inspect inspected
  refine ⟨now, _, manifest, rfl, available, hash, inspected, ?_, availableAt_le request usable, ?_,
    availableAt_of_ne_nil request now, fun reading order => validate_of_build given built order⟩
  · intro other others now' rearranged order settled
    exact ⟨_, build_rearranged rearranged built order settled, rfl, hash, inspected⟩
  · rintro rfl
    exact availableAt_of_nil

end

/-! ### Two listings of a request -/

namespace PacketSample

mutual

/-- The canonical text of a value whose texts need no escapes. -/
def render : AnyValue → String
  | .scalar .none => "null"
  | .scalar (.bool value) => if value then "true" else "false"
  | .scalar (.int value) => toString value
  | .scalar (.str content) | .scalar (.object _ content) => "\"" ++ content ++ "\""
  | .scalar _ => "NaN"
  | .list items | .tuple items => "[" ++ ",".intercalate (renderItems items) ++ "]"
  | .mapping entries =>
    "\x7b" ++ ",".intercalate ((renderEntries entries).insertionSort (· ≤ ·)) ++ "\x7d"

def renderItems : List AnyValue → List String
  | [] => []
  | item :: rest => render item :: renderItems rest

def renderEntries : List (AnyKey × AnyValue) → List String
  | [] => []
  | (.str key, value) :: rest => ("\"" ++ key ++ "\":" ++ render value) :: renderEntries rest
  | (_, _) :: rest => renderEntries rest

end

def runtime : CandidateRuntime where
  canonicalJson value := .ok (render value)
  sha256 _ := String.ofList (List.replicate 64 '0')
  uuid5 name := ⟨name.length⟩
  dump := .ok
  dumpTime
    | .aware t => String.ofList (t.isoformat.toList.dropLast.take 19) ++ "Z"
    | .naive t => String.ofList (t.isoformat.toList.take 19)
  uppercase c := [c.toUpper]
  datetime _ := none
  otherFormats _ := none

def noon : Time := hours 24 * date 2026 1 5 + hours 12

theorem representable_noon : noon.Representable := ⟨by decide, by decide⟩

def catalyst : CandidateFact runtime where
  factId := "catalyst"
  value := text "program"
  sourceId := "federal"
  effectiveAt := noon
  observedAt := noon
  inference := true
  factId_length := by decide
  sourceId_length := by decide
  effectiveAt_representable := representable_noon
  observedAt_representable := representable_noon
  causally_ordered := le_rfl
  serializable := ⟨_, rfl⟩

def price : CandidateFact runtime where
  factId := "price"
  value := .mapping [(.str "percent", text "4.25")]
  sourceId := "quote:1"
  effectiveAt := noon
  observedAt := noon
  factId_length := by decide
  sourceId_length := by decide
  effectiveAt_representable := representable_noon
  observedAt_representable := representable_noon
  causally_ordered := le_rfl
  serializable := ⟨_, rfl⟩

def builder : CandidatePacketBuilder where
  maximumEstimatedTokens_pos := by decide

def firstSnapshot : WideUUID := ⟨⟨1⟩, by decide⟩

def secondSnapshot : WideUUID := ⟨⟨2⟩, by decide⟩

def request : PacketRequest runtime where
  runId := ⟨7⟩
  symbol := " acme "
  attention := .candidate
  surveillanceScore := ⟨725, -1⟩
  facts := .sequence [catalyst, price]
  sourceIds := ["calendar"]
  marketSnapshotIds := [firstSnapshot, secondSnapshot]

def other : PacketRequest runtime where
  runId := ⟨7⟩
  symbol := " acme "
  attention := .candidate
  surveillanceScore := ⟨725, -1⟩
  facts := .sequence [price, catalyst]
  sourceIds := ["calendar", "calendar"]
  marketSnapshotIds := [secondSnapshot, firstSnapshot, secondSnapshot]

theorem rearranged : Rearranged request other [catalyst, price] [price, catalyst] where
  given := rfl
  given' := rfl
  runId := rfl
  symbol := rfl
  attention := rfl
  surveillanceScore := rfl
  facts := List.Perm.swap _ _ _
  sourceIds := by simp [request, other]
  marketSnapshotIds id := by
    simp only [request, other, List.mem_cons, List.not_mem_nil, or_false]
    tauto

def said : Contents where
  runId := ⟨7⟩
  symbol := "ACME"
  attention := .candidate
  surveillanceScore := ⟨725, -1⟩
  facts := factMap runtime [catalyst, price]
  sourceIds := ["calendar", "federal", "quote:1"]
  marketSnapshotIds := [firstSnapshot, secondSnapshot]
  availableAt := noon

theorem contents_request : contents request [catalyst, price] noon = said := by
  have facts : ranking CandidateFact.factId [catalyst, price] = [catalyst, price] :=
    ranking_of_pairwise (by decide +kernel)
  have sources : sortedSet id ["calendar", "federal", "quote:1"] =
      ["calendar", "federal", "quote:1"] := ranking_of_pairwise (by decide +kernel)
  have snapshots : sortedSet (fun id : WideUUID => id.val.str) [firstSnapshot, secondSnapshot] =
      [firstSnapshot, secondSnapshot] := ranking_of_pairwise (by decide +kernel)
  have symbol : runtime.upper (strip request.symbol) = "ACME" := by decide +kernel
  rw [contents, facts, symbol]
  simp only [request, List.map_cons, List.map_nil, List.cons_append, List.nil_append]
  exact congrArg₂ (fun sources snapshots => { said with sourceIds := sources, marketSnapshotIds := snapshots })
    sources snapshots

theorem exists_packet : ∃ packet, build runtime builder (.aware noon) request = .ok packet := by
  have assembled : (assemble runtime builder noon said).isOk = true := by decide +kernel
  cases made : assemble runtime builder noon said with
  | error e => simp [made, Except.isOk, Except.toBool] at assembled
  | ok packet =>
    refine ⟨packet, (build_sequence rfl).mpr ⟨by decide +kernel, ⟨by decide, by decide⟩, ?_⟩⟩
    rw [contents_request, made]

end PacketSample

open PacketSample in
theorem build_canonical_two_listings :
    ∃ packet packet', build runtime builder (.aware noon) request = .ok packet ∧
      build runtime builder (.aware (noon + hours 1)) other = .ok packet' ∧
      packet'.packetId = packet.packetId ∧
      contentHash runtime packet' = contentHash runtime packet ∧
      inspectPacket runtime packet' = inspectPacket runtime packet ∧
      packet.availableAt = .aware noon ∧
      validatePacketAvailability runtime packet (.aware (noon + hours 2)) = .ok () := by
  obtain ⟨packet, built⟩ := exists_packet
  obtain ⟨now, available, manifest, same, shown, hash, inspected, canonical, -, -, greatest, valid⟩ :=
    build_canonical rfl built
  cases same
  obtain ⟨packet', built', sameId, hash', inspected'⟩ :=
    canonical other _ (noon + hours 1) rearranged (by decide) (Or.inr (by simp))
  have latest : available = noon := by
    obtain ⟨⟨fact, member, is⟩, -⟩ := greatest (by simp)
    simp only [List.mem_cons, List.not_mem_nil, or_false] at member
    rcases member with rfl | rfl
    · exact is.elim id id
    · exact is.elim id id
  refine ⟨packet, packet', built, built', sameId, hash'.trans hash.symm,
    inspected'.trans inspected.symm, latest ▸ shown, valid _ (by decide)⟩

end Candidates

end Sentry
