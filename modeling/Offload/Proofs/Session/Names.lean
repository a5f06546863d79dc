import Offload.Proofs.Session.Linking

/-!
# Names across linked modules

A name of a module stands for what the module itself defines or, failing that, for what the first of
its living peers defines, in the order in which they were linked. Linking modules again that have been
linked before changes no name, and a module that goes takes away only what it defined.
-/

namespace Offload

open Deciding Heap

namespace Session

variable {program : Program} {platform : Platform} {session start after : Session}
  {links : List (List ObjectId)} {id : ObjectId}

/-! ## Peers and names -/

/-- The living peers of a module, in the order in which names are looked up. -/
def peers (session : Session) (id : ObjectId) : List ObjectId :=
  match session.heap.hostModule? id with
  | some module => (session.heap.livePeers module).map (·.1)
  | none => []

/-- The entry of a name in a module's own code. -/
def ownSymbol? (session : Session) (id : ObjectId) (name : String) : Option Entry :=
  (session.heap.hostModule? id).bind (·.code.resolve name)

theorem ownSymbol?_of_hostModule {module : HostModule}
    (hmodule : session.heap.hostModule? id = some module) (name : String) :
    session.ownSymbol? id name = module.code.resolve name := by
  rw [ownSymbol?, hmodule, Option.bind_some]

/-- The address behind a name of a module that is alive. -/
def address? (session : Session) (id : ObjectId) (name : String) :
    Option (Except Failure (Option CodeAddress)) :=
  (session.heap.hostModule? id).map fun module ↦ session.functionAddress (.host module) name

/-- The address behind the name of an entry: a module's own, or else that of the first of some other
modules which has it in its own code. -/
def firstAddress (session : Session) (id : ObjectId) (others : List ObjectId) (name : String) :
    Except Failure (Option CodeAddress) :=
  match (session.ownSymbol? id name).or (others.findSome? (session.ownSymbol? · name)) with
  | some entry => .ok (some (.entry entry))
  | none => .error (.symbolNotFound name)

/-- The peers of the living modules, and what their names stand for, where some sets have been
linked. -/
structure FollowsLinks (session : Session) (links : List (List ObjectId)) : Prop where
  /-- Peers come in the order of their first link with the module, and within it of its list. -/
  ordered : ∀ {id}, session.heap.loads id = true →
    session.peers id = Peers.order session.heap.loads links id
  distinct : ∀ id, (session.peers id).Nodup
  irreflexive : ∀ id, id ∉ session.peers id
  symmetric : ∀ {id other}, session.heap.loads id = true → session.heap.loads other = true →
    (other ∈ session.peers id ↔ id ∈ session.peers other)
  /-- Two living modules are peers if some link has listed both. -/
  listed : ∀ {id other}, session.heap.loads id = true → session.heap.loads other = true →
    (other ∈ session.peers id ↔ other ≠ id ∧ ∃ set ∈ links, id ∈ set ∧ other ∈ set)
  alive : ∀ {id other}, other ∈ session.peers id → session.heap.loads other = true
  /-- No peer of a peer is asked for a name. -/
  resolves : ∀ {id}, session.heap.loads id = true → ∀ name,
    session.address? id name = some (session.firstAddress id (session.peers id) name)

theorem peers_eq_order (hlinked : session.heap.Linked links)
    (hloads : session.heap.loads id = true) :
    session.peers id = Peers.order session.heap.loads links id := by
  obtain ⟨module, hmodule⟩ := loads_iff.1 hloads
  rw [← hlinked.livePeers hmodule, peers, hmodule]

theorem peers_of_gone (hgone : ¬session.heap.loads id = true) : session.peers id = [] := by
  have hmodule : session.heap.hostModule? id = none := by simpa [Heap.loads] using hgone
  rw [peers, hmodule]

theorem followsLinks_of_linked (hlinked : session.heap.Linked links) :
    session.FollowsLinks links := by
  have hmem {id other : ObjectId} (hother : other ∈ session.peers id) :
      other ≠ id ∧ session.heap.loads other = true ∧ ∃ set ∈ links, id ∈ set ∧ other ∈ set := by
    by_cases hloads : session.heap.loads id = true
    · rw [peers_eq_order hlinked hloads] at hother
      exact Peers.mem_order.1 hother
    · rw [peers_of_gone hloads] at hother
      exact absurd hother List.not_mem_nil
  have hlisted {id other : ObjectId} (hid : session.heap.loads id = true)
      (hother : session.heap.loads other = true) :
      other ∈ session.peers id ↔ other ≠ id ∧ ∃ set ∈ links, id ∈ set ∧ other ∈ set := by
    rw [peers_eq_order hlinked hid, Peers.mem_order]
    simp only [hother, true_and]
  refine ⟨peers_eq_order hlinked, fun id ↦ ?_, fun id hself ↦ (hmem hself).1 rfl, ?_, hlisted,
    fun hother ↦ (hmem hother).2.1, ?_⟩
  · by_cases hloads : session.heap.loads id = true
    · rw [peers_eq_order hlinked hloads]
      exact nodup_eraseDups _
    · rw [peers_of_gone hloads]
      exact List.nodup_nil
  · intro id other hid hother
    rw [hlisted hid hother, hlisted hother hid]
    constructor
    all_goals
      rintro ⟨hne, set, hset, hfirst, hsecond⟩
      exact ⟨hne.symm, set, hset, hsecond, hfirst⟩
  · intro id hloads name
    obtain ⟨module, hmodule⟩ := loads_iff.1 hloads
    rw [address?, hmodule, Option.map_some, firstAddress, peers_eq_order hlinked hloads,
      ownSymbol?_of_hostModule hmodule]
    unfold functionAddress
    simp only [hlinked.resolveEntry? hmodule name]
    cases module.code.resolve name <;> rfl

/-- A request for an address gets what the name stands for. -/
theorem enter_functionAddress {handle : Handle} {module : HostModule} (hmodule :
    session.module handle = .ok (id, .host module)) (name : String) :
    ∃ address, session.address? id name = some address ∧
      ((Request.functionAddress handle name).enter platform session).2 =
        match address with
        | .ok address => .reply (.code address)
        | .error failure => .failed failure := by
  have hheld : session.heap.hostModule? id = some module :=
    hostModule?_eq_some.2 (module?_eq_some.1 (lookup_eq_ok hmodule).2)
  refine ⟨session.functionAddress (.host module) name, by rw [address?, hheld]; rfl, ?_⟩
  show (session.perform (liftM (session.module handle) >>= fun found ↦
    liftM (session.functionAddress found.2 name) >>= fun address ↦ return .answer (.code address) :
      Deciding Decision)).2 = _
  rw [hmodule, lift_ok_bind]
  cases session.functionAddress (.host module) name with
  | error failure => rfl
  | ok address => rfl

/-! ## Links on the host's devices -/

/-- A link of some modules either lists them one by one and succeeds, or it fails and lists
nothing. -/
def LinkEnds (session : Session) (modules : Option (List Handle)) (linked : List (List ObjectId))
    (result : Session × Progressed) : Prop :=
  (∃ handles set, modules = some handles ∧ session.Listed handles set ∧ linked = [set] ∧
      result.2 = .reply .nothing) ∨
    linked = [] ∧ ∃ interruption, result.2 = .ended (.error interruption)

theorem linkEnds_perform {decide : Deciding Decision} {linked : List (List ObjectId)}
    {modules : Option (List Handle)} {onHost : Prop} (hlinks : decide.LinksAs linked onHost)
    (hhost : onHost) (hlisted : ∀ set, linked = [set] →
      ∃ handles, modules = some handles ∧ session.Listed handles set) :
    session.LinkEnds modules linked (session.perform decide) := by
  unfold perform
  rcases hlinks with ⟨set, hset, hruns⟩ | ⟨hnone, -, hrefused⟩
  · obtain ⟨ambient, hrun⟩ := hruns session.ambient
    obtain ⟨handles, hmodules, hlists⟩ := hlisted set hset
    rw [hrun]
    exact .inl ⟨handles, set, hmodules, hlists, hset, rfl⟩
  · cases hrun : decide.run.run session.ambient with
    | mk outcome ambient =>
      cases outcome with
      | error interruption => exact .inr ⟨hnone, interruption, rfl⟩
      | ok decision => exact (hrefused hhost session.ambient decision (by rw [hrun])).elim

theorem linkEnds_call {device : Handle} {owner : ObjectId} {index : Nat} {context : ObjectId}
    (hdevice : session.device device = .ok (owner, .host index context))
    (modules : Option (List Handle)) (count : Nat) :
    session.LinkEnds (modules.map (·.take count))
      ((Call.linkDynamic device modules count).linked session)
      ((Call.linkDynamic device modules count).enter platform session) := by
  refine linkEnds_perform (linksAs_call device modules count) ⟨owner, index, context, hdevice⟩
    fun set hset ↦ ?_
  obtain ⟨_, handles, _, hcall, hlisted⟩ := listed_of_call hset
  obtain ⟨-, rfl, rfl⟩ := Call.linkDynamic.inj hcall
  exact ⟨handles.take count, rfl, hlisted⟩

theorem linkEnds_request {owner : Handle} {index : Nat} {context : ObjectId}
    (hdevice : session.device owner = .ok (id, .host index context)) (handles : List Handle) :
    session.LinkEnds (some handles) ((Request.linkDynamic owner handles).linked session)
      ((Request.linkDynamic owner handles).enter platform session) := by
  refine linkEnds_perform (linksAs_request owner handles) ⟨id, index, context, hdevice⟩
    fun set hset ↦ ?_
  obtain ⟨_, _, hrequest, hlisted⟩ := listed_of_request hset
  obtain ⟨-, rfl⟩ := Request.linkDynamic.inj hrequest
  exact ⟨handles, rfl, hlisted⟩

/-! ## Linking again -/

/-- A call or a request links a set. -/
inductive Links (program : Program) (session : Session) (set : List ObjectId) : Session → Prop where
  | call {call : Call} (hset : call.linked session = [set]) :
    Links program session set (call.enter program.toPlatform session).1
  | request {request : Request} (hset : request.linked session = [set]) :
    Links program session set (request.enter program.toPlatform session).1

theorem Links.history {set : List ObjectId} (hlinks : Links program session set after) :
    LinkHistory program session [set] after := by
  cases hlinks with
  | @call call hset =>
    have hhistory : LinkHistory program session ([] ++ call.linked session) _ := .call .start call
    rwa [hset] at hhistory
  | @request request hset =>
    have hhistory : LinkHistory program session ([] ++ request.linked session) _ :=
      .request .start request
    rwa [hset] at hhistory

theorem LinksOrSpares.linking {set : List ObjectId} {result : Session × Progressed}
    (hresult : session.LinksOrSpares [set] result) :
    (∃ ambient, result.1 =
        ({ session with ambient, heap := session.heap.link set } : Session).collect) ∧
      result.2 = .reply .nothing := by
  rcases hresult with ⟨other, hother, -, hafter, hreply⟩ | ⟨hnone, -⟩
  · obtain rfl := (List.cons.inj hother).1
    exact ⟨hafter, hreply⟩
  · exact absurd hnone (by simp)

/-- Linking leaves nothing behind that could be collected. -/
theorem kept_link (hkept : session.Kept []) (ambient : Ambient) (set : List ObjectId) :
    Kept { session with ambient, heap := session.heap.link set } [] := by
  have halike := alike_link session.heap set
  refine ⟨⟨hkept.rooted.of_alike halike (hostQueue?_link _ _),
    hkept.tracked.of_same (sameViews_link _ _), fun entry hentry ↦ ?_⟩, ?_⟩
  · exact halike.files_eq ▸ hkept.loaded entry hentry
  · have hordered := hkept.rooted.ordered
    apply Tidy.of_alike hkept.tidy halike
    exact anchors_subset_of_queues hordered (halike.ordered hordered) (hostQueue?_link _ _)

theorem Links.heap {set : List ObjectId} (hlinks : Links program session set after)
    (hsettled : session.Settled) : after.heap = session.heap.link set := by
  have hordered := hsettled.kept.rooted.ordered
  have hafter : ∃ ambient, after =
      ({ session with ambient, heap := session.heap.link set } : Session).collect := by
    cases hlinks with
    | @call call hset =>
      have hresult : session.LinksOrSpares (call.linked session)
          (call.enter program.toPlatform session) := linksOrSpares_call hordered call
      rw [hset] at hresult
      exact hresult.linking.1
    | @request request hset =>
      have hresult : session.LinksOrSpares (request.linked session)
          (request.enter program.toPlatform session) := linksOrSpares_request hordered request
      rw [hset] at hresult
      exact hresult.linking.1
  obtain ⟨ambient, rfl⟩ := hafter
  rw [(kept_link hsettled.kept ambient set).collect_eq_self]

/-! ## Later links and losses -/

/-- All the modules of a set have been linked with each other before. -/
def Repeats (links : List (List ObjectId)) (set : List ObjectId) : Prop :=
  ∀ first ∈ set, ∀ second ∈ set, first ≠ second →
    ∃ earlier ∈ links, first ∈ earlier ∧ second ∈ earlier

theorem order_append_of_repeats {alive : ObjectId → Bool} {more : List (List ObjectId)}
    (hrepeats : ∀ set ∈ more, Repeats links set) :
    Peers.order alive (links ++ more) id = Peers.order alive links id := by
  induction more generalizing links with
  | nil => rw [List.append_nil]
  | cons set rest ih =>
    obtain ⟨hset, hrest⟩ := List.forall_mem_cons.1 hrepeats
    have hlater : ∀ other ∈ rest, Repeats (links ++ [set]) other :=
      fun other hother first hfirst second hsecond hne ↦
        have ⟨earlier, hearlier, hboth⟩ := hrest other hother first hfirst second hsecond hne
        ⟨earlier, List.mem_append_left _ hearlier, hboth⟩
    rw [List.append_cons, ih hlater, Peers.order_append_of_linked hset]

/-- Where links only repeat earlier ones, a module that is still alive keeps just those of its peers
which are alive too, and what they define. -/
theorem followsLinks_later {more : List (List ObjectId)} (hlinked : session.heap.Linked links)
    (hordered : session.heap.Ordered) (hmore : LinkHistory program session more after)
    (hafter : after.heap.Linked (links ++ more)) (hrepeats : ∀ set ∈ more, Repeats links set)
    (hbefore : session.heap.loads id = true)
    (hloads : after.heap.loads id = true) :
    after.peers id = (session.peers id).filter after.heap.loads ∧ ∀ name,
      after.address? id name = some (session.firstAddress id
        ((session.peers id).filter after.heap.loads) name) := by
  obtain ⟨module, hmodule⟩ := loads_iff.1 hbefore
  have hold := (hlinked.below hmodule).1
  have hgone : ∀ set ∈ links, ∀ other ∈ set, after.heap.loads other = true →
      session.heap.loads other = true :=
    fun set hset other hother ↦ hmore.loads hordered (hlinked.given set hset other hother)
  have hpeers : after.peers id = (session.peers id).filter after.heap.loads := by
    rw [peers_eq_order hafter hloads, peers_eq_order hlinked hbefore,
      order_append_of_repeats hrepeats, Peers.order_of_gone hgone]
  have hown {other : ObjectId} (hother : other < session.heap.next)
      (hlater : after.heap.loads other = true) (name : String) :
      after.ownSymbol? other name = session.ownSymbol? other name := by
    obtain ⟨module, hmodule⟩ := loads_iff.1 hlater
    obtain ⟨old, hmoduleBefore, hcode⟩ := hmore.code hordered hother hmodule
    rw [ownSymbol?_of_hostModule hmodule, ownSymbol?_of_hostModule hmoduleBefore, hcode]
  refine ⟨hpeers, fun name ↦ ?_⟩
  have hothers : ((session.peers id).filter after.heap.loads).findSome? (after.ownSymbol? · name) =
      ((session.peers id).filter after.heap.loads).findSome? (session.ownSymbol? · name) := by
    rw [← List.head?_filterMap, ← List.head?_filterMap]
    congr 1
    apply List.filterMap_congr
    intro other hother
    obtain ⟨hpeer, hlater⟩ := List.mem_filter.1 hother
    rw [peers_eq_order hlinked hbefore] at hpeer
    obtain ⟨-, -, set, hset, -, hlistedIn⟩ := Peers.mem_order.1 hpeer
    exact hown (hlinked.given set hset other hlistedIn) hlater name
  rw [(followsLinks_of_linked hafter).resolves hloads, hpeers, firstAddress, firstAddress,
    hown hold hloads, hothers]

/-- Linking what has been linked before changes no peers and no name. -/
theorem followsLinks_again {set : List ObjectId} (hsettled : session.Settled)
    (hlinked : session.heap.Linked links) (hlinks : Links program session set after)
    (hafter : after.heap.Linked (links ++ [set])) (hrepeats : Repeats links set) (id : ObjectId) :
    after.peers id = session.peers id ∧
      ∀ name, after.address? id name = session.address? id name := by
  have hsame : after.heap.loads = session.heap.loads := by
    funext other
    simp only [Heap.loads, hlinks.heap hsettled, hostModule?_link, Option.isSome_map]
  have hgone {session : Session} (hid : ¬session.heap.loads id = true) (name : String) :
      session.address? id name = none := by
    have hmodule : session.heap.hostModule? id = none := by simpa [Heap.loads] using hid
    rw [address?, hmodule, Option.map_none]
  by_cases hloads : session.heap.loads id = true
  · have hfollows := followsLinks_of_linked hlinked
    have hall : (session.peers id).filter after.heap.loads = session.peers id :=
      List.filter_eq_self.2 fun other hother ↦ hsame ▸ hfollows.alive hother
    obtain ⟨hpeers, hnames⟩ := followsLinks_later hlinked hsettled.kept.rooted.ordered
      hlinks.history hafter (List.forall_mem_singleton.2 hrepeats) hloads (hsame ▸ hloads)
    refine ⟨hpeers.trans hall, fun name ↦ ?_⟩
    rw [hnames, hall, hfollows.resolves hloads]
  · have hlater : ¬after.heap.loads id = true := hsame ▸ hloads
    exact ⟨(peers_of_gone hlater).trans (peers_of_gone hloads).symm,
      fun name ↦ (hgone hlater name).trans (hgone hloads name).symm⟩

/-- From a fresh session on, the peers of the living modules and the meaning of their names follow
the sets that have been linked. -/
theorem peers_follow_links (hfresh : start.Fresh)
    (hhistory : LinkHistory program start links session) :
    session.FollowsLinks links ∧
    (∀ handle id module name, session.module handle = .ok (id, .host module) →
      ∃ address, session.address? id name = some address ∧
        ((Request.functionAddress handle name).enter program.toPlatform session).2 =
          match address with
          | .ok address => .reply (.code address)
          | .error failure => .failed failure) ∧
    (∀ device owner index context, session.device device = .ok (owner, .host index context) →
      (∀ modules count, session.LinkEnds (modules.map (·.take count))
        ((Call.linkDynamic device modules count).linked session)
        ((Call.linkDynamic device modules count).enter program.toPlatform session)) ∧
      ∀ handles, session.LinkEnds (some handles)
        ((Request.linkDynamic device handles).linked session)
        ((Request.linkDynamic device handles).enter program.toPlatform session)) ∧
    (∀ more later, LinkHistory program session more later → (∀ set ∈ more, Repeats links set) →
      ∀ id, session.heap.loads id = true → later.heap.loads id = true →
        later.peers id = (session.peers id).filter later.heap.loads ∧
        ∀ name, later.address? id name =
          some (session.firstAddress id ((session.peers id).filter later.heap.loads) name)) ∧
    (session.Settled →
      (∀ set after, Links program session set after → Repeats links set →
        ∀ id, after.peers id = session.peers id ∧
          ∀ name, after.address? id name = session.address? id name) ∧
      ∀ later, Runs program session later → ∃ more, LinkHistory program session more later) := by
  obtain ⟨hordered, hlinked⟩ := hhistory.linked hfresh
  refine ⟨followsLinks_of_linked hlinked, fun handle id module name hmodule ↦
    enter_functionAddress hmodule name, fun device owner index context hdevice ↦
    ⟨linkEnds_call hdevice, linkEnds_request hdevice⟩, ?_, fun hsettled ↦ ⟨?_, ?_⟩⟩
  · intro more later hmore hrepeats id hbefore hloads
    exact followsLinks_later hlinked hordered hmore ((hhistory.trans hmore).linked hfresh).2
      hrepeats hbefore hloads
  · intro set after hlinks hrepeats id
    exact followsLinks_again hsettled hlinked hlinks
      ((hhistory.trans hlinks.history).linked hfresh).2 hrepeats id
  · intro later hruns
    exact (hruns.linkHistory hsettled).2

/-- Three modules of which the second has been linked with each of the others, with the third one
twice in one list. -/
def chained : Session :=
  [Request.hostDevice 0, .symbolModule "first" [("one", "one")],
    .symbolModule "second" [("two", "two")],
    .symbolModule "third" [("two", "other"), ("three", "three")], .linkDynamic 1 [2, 3],
    .linkDynamic 1 [3, 4, 3]].foldl (fun session request ↦ (request.enter {} session).1) {}

/-- The first module gets the names of the second one but not those of the third. -/
theorem peers_follow_links_chained :
    chained.FollowsLinks [[2, 3], [3, 4, 3]] ∧ (List.map chained.peers [2, 3, 4] = [[3], [2, 4], [3]]) ∧
      chained.address? 2 "two" = some (.ok (some (.entry (.host "two")))) ∧
      chained.address? 2 "three" = some (.error (.symbolNotFound "three")) ∧
      chained.address? 3 "three" = some (.ok (some (.entry (.host "three")))) := by
  have hmodules : LinkHistory {} {} _ _ :=
    (((LinkHistory.start.request (.hostDevice 0)).request
      (.symbolModule "first" [("one", "one")])).request
      (.symbolModule "second" [("two", "two")])).request
      (.symbolModule "third" [("two", "other"), ("three", "three")])
  have hhistory : LinkHistory {} {} [[2, 3], [3, 4, 3]] chained :=
    (hmodules.request (.linkDynamic 1 [2, 3])).request (.linkDynamic 1 [3, 4, 3])
  obtain ⟨hfollows, -⟩ := peers_follow_links ⟨rfl, rfl, rfl, rfl, rfl⟩ hhistory
  refine ⟨hfollows, ?_⟩
  decide +kernel

end Session

end Offload
