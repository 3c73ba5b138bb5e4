import ProbeLifecycle.Proofs.AcceptedCollections
import ProbeLifecycle.Proofs.CallScope
import ProbeLifecycle.Proofs.FormText
import ProbeLifecycle.Proofs.RequestIdentity

/-!
# Lookups of clusters

A lookup goes to the collection itself and selects the probes of a cluster by one more
parameter.  The service reads this parameter with the identifier as it is, after all
parameters that the address of the collection has, so that no identifier can change
another parameter and different identifiers are looked up at different targets.
-/

namespace ProbeLifecycle

open Text

namespace Url

def parameters (url : Url) : FormPairs :=
  decodeForm (url.query.getD "").toList

@[simp]
theorem parameters_appendPair (url : Url) (name value : String) :
    (url.appendPair name value).parameters = url.parameters ++ [(name, value)] := by
  unfold parameters appendPair
  cases url.query with
  | none => simp [decodeForm_formPair]
  | some query =>
      by_cases empty : query = ""
      · simp [empty, decodeForm_formPair]
      · simp [empty, decodeForm_append_ampersand, decodeForm_formPair]

end Url

namespace Message

def path (message : Message) : List Char :=
  message.target.toList.takeWhile (· != '?')

def parameters (message : Message) : FormPairs :=
  decodeForm ((message.target.toList.dropWhile (· != '?')).drop 1)

/-- A message asks a collection for the probes of a cluster: it reads from the place
of the collection, with the parameters that the collection has and one for the
cluster. -/
structure LooksUp (message : Message) (collection : Collection)
    (clusterId : String) : Prop where
  method : message.method = .get
  path : message.path = collection.url.path.chars
  parameters : message.parameters =
    collection.url.parameters ++ [("label_selector", "cluster_id=" ++ clusterId)]

theorem LooksUp.target_ne {message other : Message} {collection : Collection}
    {clusterId otherId : String} (looksUp : message.LooksUp collection clusterId)
    (looksUpToo : other.LooksUp collection otherId) (differ : clusterId ≠ otherId) :
    message.target ≠ other.target := by
  intro sameTarget
  have same : message.parameters = other.parameters := by
    unfold Message.parameters
    rw [sameTarget]
  rw [looksUp.parameters, looksUpToo.parameters] at same
  obtain ⟨-, samePair⟩ := List.append_inj' same rfl
  have sameValue : "cluster_id=" ++ clusterId = "cluster_id=" ++ otherId :=
    congrArg Prod.snd (List.singleton_inj.mp samePair)
  rw [← String.toList_inj, String.toList_append, String.toList_append] at sameValue
  exact differ (String.toList_inj.mp (List.append_cancel_left sameValue))

end Message

section Targets

variable {url : Url} {message : Message}

/-- The target of an address with a clean path is cut where it was put together. -/
theorem Message.cut_target (clean : url.path.IsClean)
    (isTarget : message.target = url.target) :
    message.path = url.path.chars ∧ message.parameters = url.parameters := by
  have beforeMark : ∀ char ∈ url.path.chars, (char != '?') = true := by
    intro char member
    exact bne_iff_ne.mpr (clean.unmarked char member).1
  unfold path parameters Url.parameters
  rw [isTarget, Url.target, String.toList_append, String.toList_ofList,
    List.takeWhile_append_of_pos beforeMark, List.dropWhile_append_of_pos beforeMark]
  cases url.query with
  | none => simp [Url.markedText]
  | some query => simp [Url.markedText]

theorem Message.of_build {method : Method} {headers : List Header} {body : String}
    (built : Message.build? method url headers body = some message) :
    message.method = method ∧ message.target = url.target := by
  unfold build? at built
  rw [Option.ite_none_right_eq_some] at built
  obtain ⟨-, same⟩ := built
  rw [← Option.some.inj same]
  exact ⟨rfl, rfl⟩

theorem Message.body_of_build {method : Method} {headers : List Header} {body : String}
    (built : Message.build? method url headers body = some message) :
    message.body = body := by
  unfold build? at built
  rw [Option.ite_none_right_eq_some] at built
  obtain ⟨-, same⟩ := built
  rw [← Option.some.inj same]

end Targets

namespace ProbeClient

/-- A lookup sends a message to the service in some run. -/
def SendsInLookup (client : ProbeClient) (clusterId : String) (message : Message) :
    Prop :=
  ∃ (ω : Type) (surroundings : Surroundings ω) (cache : Option AccessToken)
    (world : ω) (request : ApiRequest) (delivery : Delivery),
    .exchanged (.api request) delivery ∈
        ((client.getProbe clusterId).run.run surroundings cache world).events ∧
      request.message? = some message

section Lookups

variable {base tenant clusterId : String} {client : ProbeClient} {message : Message}

theorem looksUp_of_message? (clean : client.collection.url.path.IsClean)
    {bearer : Option Bearer}
    (built : (client.apiRequest (.lookup clusterId) bearer).message? = some message) :
    message.LooksUp client.collection clusterId := by
  have cleanToo : (client.callUrl (.lookup clusterId)).path.IsClean := clean
  obtain ⟨method, target⟩ := Message.of_build built
  obtain ⟨path, parameters⟩ := Message.cut_target cleanToo target
  refine ⟨method, path, ?_⟩
  rw [parameters]
  exact Url.parameters_appendPair client.collection.url _ _

theorem SendsInLookup.looksUp (clean : client.collection.url.path.IsClean)
    (sends : client.SendsInLookup clusterId message) :
    message.LooksUp client.collection clusterId := by
  obtain ⟨ω, surroundings, cache, world, request, delivery, member, built⟩ := sends
  rw [← Procedure.plan_lookup] at member
  obtain ⟨attempts, conducts⟩ := Procedure.conducts_run surroundings client
    (.lookup clusterId) cache world
  obtain ⟨before, after, cut⟩ := List.append_of_mem member
  rw [cut] at conducts
  have callsOnly : (Procedure.lookup clusterId).CallsOnly (· = .lookup clusterId) :=
    Procedure.callsOnly_lookup rfl
  have listed : (.api request, delivery) ∈
      exchanges (before ++ .exchanged (.api request) delivery :: after) := by
    simp
  have isLookup := conducts.callsOnly callsOnly listed
  obtain ⟨call, bearer, rfl, -⟩ := conducts.makesAll.proves ⟨0⟩ rfl
  obtain rfl : call = .lookup clusterId := isLookup
  exact looksUp_of_message? clean built

/-- In a collection that was accepted, every message that a lookup sends to the service
reads from the place of the collection, with the parameters of the collection and
one that has the identifier as it is.  So messages for different clusters have
different targets. -/
theorem lookup_untampered
    (accepted : Collection.ofBase base tenant = .ok client.collection)
    (sends : client.SendsInLookup clusterId message) :
    message.LooksUp client.collection clusterId ∧
      ∀ otherId other, client.SendsInLookup otherId other → otherId ≠ clusterId →
        other.target ≠ message.target := by
  have clean := (Collection.isProper_of_ofBase accepted).clean
  have looksUp := sends.looksUp clean
  refine ⟨looksUp, fun otherId other sendsToo differ => ?_⟩
  exact (sendsToo.looksUp clean).target_ne looksUp differ

set_option maxRecDepth 4000 in
/-- With an address that has a query, an identifier that looks like another parameter
is looked up as it is. -/
theorem lookup_untampered_separators :
    let url : Url :=
      { scheme := .https, host := "h", path := ⟨[], "probes"⟩,
        query := some "tag=a%26b&debug" }
    let client : ProbeClient := ⟨⟨url, "hcp"⟩, none⟩
    let clusterId := "é&label_selector=%20+#?"
    let message : Message :=
      { method := .get
        target := "/probes?tag=a%26b&debug&label_selector=cluster_id%3D%C3%A9" ++
          "%26label_selector%3D%2520%2B%23%3F"
        headers := [⟨"content-type", "application/json"⟩, ⟨"x-tenant", "hcp"⟩]
        body := "" }
    Collection.ofBase "https://h/probes?tag=a%26b&debug" "hcp" =
        .ok client.collection ∧
      client.SendsInLookup clusterId message ∧
      message.path = "/probes".toList ∧
      message.parameters = [("tag", "a&b"), ("debug", ""),
        ("label_selector", "cluster_id=é&label_selector=%20+#?")] := by
  intro url client clusterId message
  have accepted : Collection.ofBase "https://h/probes?tag=a%26b&debug" "hcp" =
      .ok client.collection := rfl
  have sends : client.SendsInLookup clusterId message := by
    refine ⟨List ScriptedReply, .scripted ⟨0⟩, none, [],
      client.apiRequest (.lookup clusterId) none, .hungUp, ?_, ?_⟩
    · decide +kernel
    · decide +kernel
  obtain ⟨looksUp, -⟩ := lookup_untampered accepted sends
  refine ⟨accepted, sends, looksUp.path.trans (by decide), ?_⟩
  rw [looksUp.parameters]
  decide +kernel

end Lookups

end ProbeClient

end ProbeLifecycle
