import ResourceTemplate.Json.Printer
import ResourceTemplate.Proofs.Cluster.Service
import ResourceTemplate.Proofs.Manifest.Payload

/-!
# Where requests about an object go

To create an object, to read it back and to replace it are three requests that find their addresses
in different ways: two from the object, one from what identifies it.  They go to one collection all
the same, and below it to one name.  The collection is that of the whole cluster for kinds that live
outside namespaces, and otherwise that of the namespace of the object or of the default one.

An address is sent as it is when it is not too long, its characters may stand in a target and none
of them is a hash.  A hash cuts it, and then the request goes somewhere else; if the address is too
long or another character may not stand in a target, nothing is sent at all.  What a service answers
to the requests is not looked at here.
-/

namespace ResourceTemplate.Cluster

/-! ## Addresses that are sent as they are -/

/-- Characters of a path and, behind the first question mark, characters of a query; no hash. -/
inductive Addressable : List Char → Prop
  | nil : Addressable []
  | query {rest : List Char} (h : ∀ c ∈ rest, isQueryChar c = true ∧ c ≠ '#') :
      Addressable ('?' :: rest)
  | path {c : Char} {rest : List Char} (hchar : isPathChar c = true) (hquestion : c ≠ '?')
      (hhash : c ≠ '#') (h : Addressable rest) : Addressable (c :: rest)

theorem queryTarget_eq_self {text : List Char} (h : ∀ c ∈ text, isQueryChar c = true ∧ c ≠ '#') :
    queryTarget text = some text := by
  induction text with
  | nil => rfl
  | cons c rest ih =>
      obtain ⟨⟨hchar, hhash⟩, hrest⟩ := List.forall_mem_cons.mp h
      simp [queryTarget, hhash, hchar, ih hrest]

theorem pathTarget_eq_self {text : List Char} (h : Addressable text) :
    pathTarget text = some text := by
  induction h with
  | nil => rfl
  | query h => simp [pathTarget, queryTarget_eq_self h]
  | path hchar hquestion hhash _ ih => simp [pathTarget, hhash, hquestion, hchar, ih]

namespace Addressable

variable {first second : List Char}

/-- Without a question mark, characters of a path are enough. -/
theorem of_path (h : ∀ c ∈ first, (isPathChar c && c != '?' && c != '#') = true) :
    Addressable first := by
  induction first with
  | nil => exact .nil
  | cons c first ih =>
      obtain ⟨hfirst, hrest⟩ := List.forall_mem_cons.mp h
      simp only [Bool.and_eq_true, bne_iff_ne] at hfirst
      obtain ⟨⟨hchar, hquestion⟩, hhash⟩ := hfirst
      exact .path hchar hquestion hhash (ih hrest)

theorem of_append (h : Addressable (first ++ second)) : Addressable first := by
  induction first with
  | nil => exact .nil
  | cons c first ih =>
      cases h with
      | query h => exact .query fun d hd => h d (List.mem_append_left _ hd)
      | path hchar hquestion hhash h => exact .path hchar hquestion hhash (ih h)

/-- An empty query may stand behind everything. -/
theorem append_question (h : Addressable first) : Addressable (first ++ ['?']) := by
  induction h with
  | nil => exact .query (by simp)
  | query h =>
      refine .query fun c hc => ?_
      rcases List.mem_append.mp hc with hc | hc
      · exact h c hc
      · rw [List.mem_singleton.mp hc]
        decide
  | path hchar hquestion hhash h ih => exact .path hchar hquestion hhash ih

end Addressable

/-- An address that is sent as it is. -/
structure Sendable (address : String) : Prop where
  addressable : Addressable address.toList
  fits : address.utf8ByteSize ≤ targetLimit

theorem targetOf_eq_self {address : String} (h : Sendable address) :
    targetOf address = .ok address := by
  rw [targetOf, if_neg (Nat.not_lt.mpr h.fits), pathTarget_eq_self h.addressable]
  simp only [String.ofList_toList]

/-- What is sent as it is together with an empty query is sent as it is without it. -/
theorem Sendable.of_question {address : String} (h : Sendable (address ++ "?")) :
    Sendable address where
  addressable := (String.toList_append ▸ h.addressable).of_append
  fits := Nat.le_trans (by rw [String.utf8ByteSize_append]; exact Nat.le_add_right _ _) h.fits

/-- A collection is sent as it is if something below it is. -/
theorem Sendable.collection {collection below : String}
    (h : Sendable (collection ++ "/" ++ below ++ "?")) : Sendable (collection ++ "?") where
  addressable := by
    have hitem := h.of_question.addressable
    rw [String.append_assoc, String.toList_append] at hitem
    rw [String.toList_append]
    exact hitem.of_append.append_question
  fits := by
    have hfits := h.fits
    simp only [String.utf8ByteSize_append] at hfits ⊢
    omega

/-! ## Requests -/

variable {State : Type}

/-- In a state a service tells where the resources of a kind are found. -/
def Service.Locates (service : Service State) (state : State) (types : TypeMeta)
    (location : Location) : Prop :=
  ∃ target, targetOf (discoveryPath types.apiVersion) = .ok target ∧
    located types (service ⟨.get, target, none⟩ state).1 = .ok location

/-- What is asked of a service for a request, in order. -/
def asked (service : Service State) (defaultNamespace : String) (request : Request)
    (state : State) : List HttpRequest :=
  (httpClient service.recording defaultNamespace request ([], state)).2.1

/-- What is sent to an address: one request to its target, or nothing when it has none. -/
def sentTo (method : Method) (address : String) (body? : Option Json) : List HttpRequest :=
  ((targetOf address).toOption.map fun target => ⟨method, target, body?⟩).toList

theorem sentTo_of_sendable {method : Method} {address : String} {body? : Option Json}
    (h : Sendable address) : sentTo method address body? = [⟨method, address, body?⟩] := by
  rw [sentTo, targetOf_eq_self h]
  rfl

/-- First the service is asked for the kind, and then the request is sent to its address. -/
theorem asked_of_locates {service : Service State} {state : State} {request : Request} {s : Sending}
    {location : Location} (hsending : request.sending = .ok s) (hname : s.name? ≠ some "")
    (h : service.Locates state s.types location) (defaultNamespace : String) :
    ∃ discovery, discovery.method = .get ∧ asked service defaultNamespace request state =
      discovery :: sentTo s.method (s.addressAt defaultNamespace location) s.body? := by
  obtain ⟨target, htarget, hlocated⟩ := h
  refine ⟨⟨.get, target, none⟩, rfl, ?_⟩
  rw [asked, httpClient_eq, hsending]
  dsimp only
  rw [Sending.run_eq, htarget]
  simp only [Service.recording, hlocated, if_neg hname]
  rw [send_eq, sentTo]
  cases targetOf (s.addressAt defaultNamespace location) <;> rfl

/-! ## Collections -/

/-- The address under which the resources of an API version are found. -/
def Location.root (location : Location) : String :=
  (if location.grouped then "/apis/" else "/api/") ++ location.apiVersion ++ "/"

/-- The address of the collection that an object belongs to, given where the resources of its kind
are found. -/
inductive Collection (location : Location) (defaultNamespace : String) (r : Resource) : String → Prop
  /-- The kind lives outside namespaces, and the namespace of the object does not count. -/
  | clusterWide (h : location.namespaced = false) :
      Collection location defaultNamespace r (location.root ++ location.plural)
  /-- The object states a namespace. -/
  | stated {ns : String} (h : location.namespaced = true) (hns : r.metadata.namespaceName? = some ns)
      (hne : ns ≠ "") :
      Collection location defaultNamespace r
        (location.root ++ ("namespaces/" ++ ns ++ "/") ++ location.plural)
  /-- The object states no namespace, or the empty one. -/
  | byDefault (h : location.namespaced = true)
      (hns : r.metadata.namespaceName? = none ∨ r.metadata.namespaceName? = some "") :
      Collection location defaultNamespace r
        (location.root ++ ("namespaces/" ++ defaultNamespace ++ "/") ++ location.plural)

theorem collection_path (location : Location) (defaultNamespace : String) (r : Resource) :
    Collection location defaultNamespace r
      (location.path (location.scope defaultNamespace r.namespaceName?)) := by
  cases hscope : location.namespaced with
  | false =>
      have hpath : location.path (location.scope defaultNamespace r.namespaceName?) =
          location.root ++ location.plural := by
        simp [Location.path, Location.scope, Location.root, hscope]
      rw [hpath]
      exact .clusterWide hscope
  | true =>
      have hpath : location.path (location.scope defaultNamespace r.namespaceName?) =
          location.root ++ ("namespaces/" ++ r.namespaceName?.getD defaultNamespace ++ "/") ++
            location.plural := by
        simp only [Location.path, Location.scope, Location.root, hscope, if_true]
        rfl
      rw [hpath, Resource.namespaceName?]
      cases hns : r.metadata.namespaceName? with
      | none => exact .byDefault hscope (Or.inl hns)
      | some ns =>
          by_cases hempty : ns = ""
          · subst hempty
            exact .byDefault hscope (Or.inr hns)
          · rw [Option.filter_some_pos (by simpa using hempty)]
            exact .stated hscope hns hempty

/-! ## One address for an object -/

/-- The requests about an object, each with its method, its address below a collection and what it
carries.  A replacement is sent as the object is, or under another version. -/
inductive About (m : Manifest) (collection : String) : Request → Method → String → Option Json → Prop
  | create : About m collection (.create m.resource) .post (collection ++ "?") (some m.resource.toJson)
  | get : About m collection (.get m.id) .get (collection ++ "/" ++ m.resource.name) none
  | update {sent : Resource} (h : sent = m.resource ∨ ∃ version?, sent =
      { m.resource with metadata := m.resource.metadata.withResourceVersion version? }) :
      About m collection (.update sent) .put (collection ++ "/" ++ m.resource.name ++ "?")
        (some sent.toJson)

/-- What is to be sent for a request about an object. -/
theorem About.sending {m : Manifest} {types : TypeMeta} (htypes : m.resource.types? = some types)
    (hname : m.resource.name ≠ "") {collection : String} {request : Request} {method : Method}
    {address : String} {body? : Option Json} (h : About m collection request method address body?) :
    ∃ s, request.sending = .ok s ∧ s.types = types ∧ s.namespaceName? = m.resource.namespaceName? ∧
      s.name? ≠ some "" ∧ s.method = method ∧ s.address collection = address ∧ s.body? = body? := by
  cases h with
  | create =>
      refine ⟨⟨.post, types, m.resource.namespaceName?, none, (· ++ "?"), some m.resource.toJson⟩, ?_,
        rfl, rfl, by simp, rfl, rfl, rfl⟩
      simp [Request.sending, htypes]
  | get =>
      refine ⟨_, rfl, ?_, rfl, by simpa [Manifest.id] using hname, rfl, rfl, rfl⟩
      simp [Manifest.id, Resource.apiVersion, Resource.kind, htypes]
  | @update sent h =>
      -- Another version leaves the type, the name and the namespace of the object as they are.
      obtain ⟨hsentTypes, hsentName, hsentNamespace⟩ : sent.types? = some types ∧
          sent.metadata.name? = some m.resource.name ∧
          sent.namespaceName? = m.resource.namespaceName? := by
        have hgiven : m.resource.metadata.name? = some m.resource.name := by
          unfold Resource.name at hname ⊢
          cases hfound : m.resource.metadata.name? with
          | none => simp [hfound] at hname
          | some name => rfl
        rcases h with rfl | ⟨version?, rfl⟩
        · exact ⟨htypes, hgiven, rfl⟩
        · refine ⟨htypes, (Metadata.name?_withResourceVersion _ _).trans hgiven, ?_⟩
          simp only [Resource.namespaceName?, Metadata.namespaceName?_withResourceVersion]
      refine ⟨⟨.put, types, sent.namespaceName?, some m.resource.name,
        (itemAddress · m.resource.name ++ "?"), some sent.toJson⟩, ?_, rfl, hsentNamespace,
        by simpa using hname, rfl, rfl, rfl⟩
      simp [Request.sending, hsentTypes, hsentName]

theorem About.sendable {m : Manifest} {collection : String} {request : Request} {method : Method}
    {address : String} {body? : Option Json} (h : About m collection request method address body?)
    (hitem : Sendable (collection ++ "/" ++ m.resource.name ++ "?")) : Sendable address := by
  cases h with
  | create => exact hitem.collection
  | get => exact hitem.of_question
  | update => exact hitem

/-- First the service is asked for the kind, and then what is asked about the object goes to the
address that it has below the collection. -/
theorem About.asked_eq {m : Manifest} {types : TypeMeta} {location : Location}
    {defaultNamespace : String} (htypes : m.resource.types? = some types)
    (hname : m.resource.name ≠ "") {request : Request} {method : Method} {address : String}
    {body? : Option Json} (h : About m
      (location.path (location.scope defaultNamespace m.resource.namespaceName?)) request method address
      body?)
    {service : Service State} {state : State} (hlocates : service.Locates state types location) :
    ∃ discovery, discovery.method = .get ∧
      asked service defaultNamespace request state = discovery :: sentTo method address body? := by
  obtain ⟨s, hsending, rfl, hnamespace, hsname, rfl, haddress, rfl⟩ := h.sending htypes hname
  rw [← haddress, ← hnamespace]
  exact asked_of_locates hsending hsname hlocates defaultNamespace

/-- However a service tells where the resources of the kind of a decoded object are found,
everything that is asked about the object goes to one collection and, to read or replace it, below
that to its name.  If the address at which it is replaced can be sent as it is, then these are the
requests. -/
theorem requests_share_address {scheme : Scheme} {raw : Json} {m : Manifest} (hraw : raw.Canonical)
    (hdecode : scheme.decode raw = .ok (some m)) (hname : m.resource.name ≠ "")
    (defaultNamespace : String) (location : Location) :
    ∃ types collection, Scheme.statedType? raw = some types ∧
      Collection location defaultNamespace m.resource collection ∧
      ∀ request method address body?, About m collection request method address body? →
        ∀ (service : Service State) state, service.Locates state types location →
          ∃ discovery, discovery.method = .get ∧
            asked service defaultNamespace request state =
              discovery :: sentTo method address body? ∧
            (Sendable (collection ++ "/" ++ m.resource.name ++ "?") →
              asked service defaultNamespace request state =
                [discovery, ⟨method, address, body?⟩]) := by
  obtain ⟨members, types, -, hstated, htaken⟩ := Scheme.takenFrom_of_decode hraw hdecode
  refine ⟨types, _, hstated, collection_path location defaultNamespace m.resource, ?_⟩
  intro request method address body? habout service state hlocates
  obtain ⟨discovery, hdiscovery, hasked⟩ := habout.asked_eq htaken.types hname hlocates
  refine ⟨discovery, hdiscovery, hasked, fun hitem => ?_⟩
  rw [hasked, sentTo_of_sendable (habout.sendable hitem)]

/-- An object of an unknown kind in a namespace. -/
def gadgetNamed (name : String) : Json :=
  .object [("apiVersion", .string "example.com/v1"), ("kind", .string "Gadget"),
    ("metadata", .object [("name", .string name), ("namespace", .string "team")])]

/-- Where the resources of its kind are found. -/
def gadgetLocation : Location := ⟨true, "example.com/v1", "gadgets", true⟩

/-- A service that answers everything with the resources of its API version. -/
def gadgetService : Service Unit := fun _ state =>
  (.ok ⟨200, Json.compact (.object [("groupVersion", .string "example.com/v1"),
    ("resources", .array [.object [("kind", .string "Gadget"), ("name", .string "gadgets"),
      ("namespaced", .bool true), ("singularName", .string "gadget"), ("verbs", .array [])]])])⟩, state)

theorem gadgetService_locates :
    gadgetService.Locates () ⟨"example.com/v1", "Gadget"⟩ gadgetLocation :=
  ⟨"/apis/example.com/v1", by decide +kernel, by decide +kernel⟩

theorem requests_share_address_gadget :
    (gadgetNamed "dial").Canonical ∧ ∃ m, Scheme.builtin.decode (gadgetNamed "dial") = .ok (some m) ∧
      m.resource.name = "dial" ∧
      gadgetService.Locates () ⟨"example.com/v1", "Gadget"⟩ gadgetLocation ∧
      ∀ request method address body?,
        About m "/apis/example.com/v1/namespaces/team/gadgets" request method address body? →
          ∃ discovery, asked gadgetService "default" request () =
            [discovery, ⟨method, address, body?⟩] := by
  have hraw : (gadgetNamed "dial").Canonical := by
    simp only [gadgetNamed, Json.Canonical, Json.CanonicalMembers, Dict.Ordered]
    decide
  obtain ⟨m, hdecode, hname, hnamespace⟩ :
      ∃ m, Scheme.builtin.decode (gadgetNamed "dial") = .ok (some m) ∧ m.resource.name = "dial" ∧
        m.resource.metadata.namespaceName? = some "team" := ⟨_, rfl, rfl, rfl⟩
  refine ⟨hraw, m, hdecode, hname, gadgetService_locates, fun request method address body? habout => ?_⟩
  obtain ⟨types, collection, hstated, hcollection, hall⟩ :=
    requests_share_address hraw hdecode (by rw [hname]; decide) "default" gadgetLocation
  obtain rfl : ⟨"example.com/v1", "Gadget"⟩ = types := Option.some.inj hstated
  obtain rfl : collection = "/apis/example.com/v1/namespaces/team/gadgets" := by
    cases hcollection with
    | clusterWide h => exact absurd h (by decide)
    | stated _ hns _ =>
        obtain rfl := Option.some.inj (hnamespace.symm.trans hns)
        decide
    | byDefault _ hns => simp [hnamespace] at hns
  obtain ⟨discovery, -, -, hasked⟩ :=
    hall request method address body? habout gadgetService () gadgetService_locates
  refine ⟨discovery, hasked ⟨?_, ?_⟩⟩
  · rw [hname, String.toList_append]
    exact (Addressable.of_path (List.all_eq_true.mp (by decide))).append_question
  · rw [hname]
    decide

/-- An object with a hash in its name is created in its collection, but read and replaced at another
address than that of its name there. -/
theorem name_is_cut_at_hash :
    ∃ m, Scheme.builtin.decode (gadgetNamed "a#b") = .ok (some m) ∧ m.resource.name = "a#b" ∧
      gadgetService.Locates () ⟨"example.com/v1", "Gadget"⟩ gadgetLocation ∧
      ∃ collection, Collection gadgetLocation "default" m.resource collection ∧
        (∃ discovery, asked gadgetService "default" (.create m.resource) () =
          [discovery, ⟨.post, collection ++ "?", some m.resource.toJson⟩]) ∧
        (∃ discovery, asked gadgetService "default" (.get m.id) () =
          [discovery, ⟨.get, collection ++ "/a", none⟩]) ∧
        (∃ discovery, asked gadgetService "default" (.update m.resource) () =
          [discovery, ⟨.put, collection ++ "/a", some m.resource.toJson⟩]) ∧
        collection ++ "/a" ≠ collection ++ "/" ++ m.resource.name := by
  obtain ⟨m, hdecode, htypes, hname, hpath⟩ : ∃ m,
      Scheme.builtin.decode (gadgetNamed "a#b") = .ok (some m) ∧
      m.resource.types? = some ⟨"example.com/v1", "Gadget"⟩ ∧ m.resource.name = "a#b" ∧
      gadgetLocation.path (gadgetLocation.scope "default" m.resource.namespaceName?) =
        "/apis/example.com/v1/namespaces/team/gadgets" := ⟨_, rfl, rfl, rfl, rfl⟩
  have hne : m.resource.name ≠ "" := by
    rw [hname]
    decide
  refine ⟨m, hdecode, hname, gadgetService_locates, _, collection_path _ _ _, ?_, ?_, ?_, ?_⟩
  · obtain ⟨discovery, -, hasked⟩ := About.create.asked_eq htypes hne gadgetService_locates
    rw [hpath] at hasked ⊢
    exact ⟨discovery, hasked⟩
  · obtain ⟨discovery, -, hasked⟩ := About.get.asked_eq htypes hne gadgetService_locates
    rw [hpath, hname] at hasked
    rw [hpath]
    exact ⟨discovery, hasked⟩
  · obtain ⟨discovery, -, hasked⟩ :=
      (About.update (.inl rfl)).asked_eq htypes hne gadgetService_locates
    rw [hpath, hname] at hasked
    rw [hpath]
    exact ⟨discovery, hasked⟩
  · rw [hpath, hname]
    decide

end ResourceTemplate.Cluster
