import Offload.Proofs.Heap.Leaves
import Offload.Proofs.Session.Creating
import Offload.Proofs.Session.Handles
import Offload.Proofs.Session.Names

/-!
# Static links

Modules that are linked statically make up a new one, and what the new one defines itself is
decided once and for all: a name stands for what it stands for in the first of its leaves that
defines it. How the leaves were grouped makes no difference, nor does a leaf that comes again. The
new module starts without peers, and leaves the modules it is made of as they were. What is linked
with them later, and whether a handle of theirs is left, is not seen through it.
-/

namespace Offload

open Deciding Heap

namespace Inquiry

/-- An inquiry asks for a static link, whatever becomes of it. -/
inductive LinksStatically : Inquiry → Prop where
  | call (device : Handle) (modules : Option (List Handle)) (count : Nat) :
    LinksStatically (.call (.linkStatic device modules count))
  | request (device : Handle) (modules : List Handle) :
    LinksStatically (.request (.linkStatic device modules))

end Inquiry

namespace Session

variable {program : Program} {platform : Platform} {session start before after : Session}
  {links : List (List ObjectId)} {set : List ObjectId} {inquiry : Inquiry} {id : ObjectId}

/-! ## What has been linked so far -/

theorem LinkHistory.named (hhistory : LinkHistory program start links session)
    (hfresh : start.Fresh) : session.heap.Named := by
  have hordered : start.heap.Ordered :=
    Table.ordered_of_entries_eq_nil (by rw [hfresh.heap])
  refine (hhistory.induct (motive := fun _ heap ↦ heap.Named) hordered ?_ ?_ ?_).2
  · intro id module hmodule
    rw [hfresh.heap] at hmodule
    exact absurd hmodule (by simp [Heap.hostModule?, Table.get?])
  · intro links heap set _ hnamed id module hmodule parts hparts
    rw [hostModule?_link] at hmodule
    obtain ⟨old, hold, rfl⟩ := Option.map_eq_some_iff.1 hmodule
    exact hnamed id old hold parts hparts
  · intro links before after hspares hnamed id module hmodule
    rcases hspares.module hmodule with hold | ⟨-, -, hmade⟩
    · exact hnamed id module hold
    · exact hmade.named

/-! ## Flattening -/

/-- What a module of the host consists of, and what follows for its name and its own names. -/
structure Flattens (session : Session) (id : ObjectId) : Prop where
  /-- A module with code of its own is its only leaf. -/
  leaf : ∀ module, session.heap.hostModule? id = some module → module.code.IsLeaf →
    session.heap.leaves id = [id]
  /-- The leaves of a composite are those of its parts, part by part. -/
  parts : ∀ module parts, session.heap.hostModule? id = some module →
    module.code = .composite parts →
      parts ≠ [] ∧ session.heap.leaves id = (parts.map (·.1)).flatMap session.heap.leaves
  /-- The leaves are alive, and have code of their own. -/
  alive : ∀ leaf ∈ session.heap.leaves id,
    ∃ own, session.heap.hostModule? leaf = some own ∧ own.code.IsLeaf
  /-- A name stands for what it stands for in the first leaf that defines it. -/
  resolves : ∀ name, session.ownSymbol? id name =
    (session.heap.leaves id).findSome? (session.ownSymbol? · name)
  named : session.heap.leaves id ≠ [] ∧ session.heap.nameOf id =
    "+".intercalate ((session.heap.leaves id).map session.heap.nameOf)

theorem flattens (hsound : session.heap.Sound) (hnamed : session.heap.Named)
    (hloads : session.heap.loads id = true) : session.Flattens id := by
  obtain ⟨module, hmodule⟩ := loads_iff.1 hloads
  have hleaves := leaves_of_hostModule hmodule
  refine ⟨fun other hother hleaf ↦ ?_, fun other parts hother hcode ↦ ?_, fun leaf hleaf ↦ ?_,
    fun name ↦ ?_, ?_⟩
  · rw [leaves_of_hostModule hother, hleaf.leaves_eq]
    rfl
  · exact ⟨(hnamed id other hother parts hcode).1, hsound.leaves_composite hother hcode⟩
  · rw [hleaves] at hleaf
    obtain ⟨piece, hpiece, rfl⟩ := List.mem_map.1 hleaf
    obtain ⟨own, hown, -, -, hisLeaf⟩ := hsound.leaf hmodule piece hpiece
    exact ⟨own, hown, hisLeaf⟩
  · rw [ownSymbol?_of_hostModule hmodule, hsound.resolve_eq hmodule]
    rfl
  · obtain ⟨hne, hname⟩ := hsound.name_eq hnamed hmodule
    refine ⟨by simpa [hleaves] using hne, ?_⟩
    rw [nameOf_of_hostModule hmodule, hname, hleaves, List.map_map]
    refine congrArg _ (List.map_congr_left fun piece hpiece ↦ ?_)
    obtain ⟨own, hown, hsame, -⟩ := hsound.leaf hmodule piece hpiece
    rw [Function.comp_apply, nameOf_of_hostModule hown, hsame]

/-! ## Linking modules into one -/

/-- An inquiry asks a device of the host to link some modules of the host into one. -/
inductive AsksComposite (session : Session) (set : List ObjectId) : Inquiry → Prop where
  | call {device : Handle} {owner context : ObjectId} {index count : Nat} {handles : List Handle}
    (hdevice : session.device device = .ok (owner, .host index context))
    (hlisted : session.Listed (handles.take count) set) :
    AsksComposite session set (.call (.linkStatic device (some handles) count))
  | request {device : Handle} {owner context : ObjectId} {index : Nat} {handles : List Handle}
    (hdevice : session.device device = .ok (owner, .host index context))
    (hlisted : session.Listed handles set) :
    AsksComposite session set (.request (.linkStatic device handles))

/-- Modules have been linked into one: a handle names a new module, of which they are the parts and
which has no peers. -/
def Composes (session : Session) (set : List ObjectId) (result : Session × Progressed) : Prop :=
  ∃ handle id whole, result.2 = .reply (.handle handle) ∧
    result.1.module handle = .ok (id, .host whole) ∧ session.heap.loads id = false ∧
    whole.code.partIds = set ∧ whole.peers = [] ∧ result.1.Flattens id ∧
    result.1.heap.leaves id = set.flatMap session.heap.leaves

theorem Listed.parts {handles : List Handle} (hlisted : session.Listed handles set) :
    ∃ parts : List (ObjectId × HostModule), parts.map (·.1) = set ∧
      handles.mapM session.module = .ok (parts.map fun part ↦ (part.1, .host part.2)) ∧
      ∀ part ∈ parts, session.heap.hostModule? part.1 = some part.2 := by
  induction hlisted with
  | nil => exact ⟨[], rfl, rfl, fun _ hpart ↦ absurd hpart List.not_mem_nil⟩
  | @cons handle id handles set hmodule _ ih =>
    obtain ⟨module, hmodule⟩ := hmodule
    obtain ⟨parts, rfl, hfound, hheld⟩ := ih
    refine ⟨(id, module) :: parts, rfl, ?_, List.forall_mem_cons.2 ⟨?_, hheld⟩⟩
    · rw [List.mapM_cons, hmodule, hfound]
      rfl
    · exact hostModule?_eq_some.2 (module?_eq_some.1 (lookup_eq_ok hmodule).2)

theorem AsksComposite.decide_eq (hasks : session.AsksComposite set inquiry) (platform : Platform)
    (hset : set ≠ []) :
    ∃ (parts : List (ObjectId × HostModule)) (index : Nat) (context : ObjectId),
      parts.map (·.1) = set ∧
      (∀ part ∈ parts, session.heap.hostModule? part.1 = some part.2) ∧
      inquiry.decide platform session =
        linkStatic (.host index context) (parts.map fun part ↦ (part.1, .host part.2)) := by
  cases hasks with
  | @call device owner context index count handles hdevice hlisted =>
    have hcount : count ≠ 0 := by
      rintro rfl
      rw [List.take_zero] at hlisted
      cases hlisted
      exact hset rfl
    obtain ⟨parts, hparts, hfound, hheld⟩ := hlisted.parts
    have hdecode : Call.decodeModules session (some handles) count =
        .ok (parts.map fun part ↦ (part.1, .host part.2)) := by
      rw [Call.decodeModules, if_neg hcount]
      exact hfound
    refine ⟨parts, index, context, hparts, hheld, ?_⟩
    show (liftM (Call.decodeModules session (some handles) count) >>= fun modules ↦
      liftM (session.device device) >>= fun target ↦ linkStatic target.2 modules :
        Deciding Decision) = _
    rw [hdecode, lift_ok_bind, hdevice, lift_ok_bind]
  | @request device owner context index handles hdevice hlisted =>
    obtain ⟨parts, hparts, hfound, hheld⟩ := hlisted.parts
    refine ⟨parts, index, context, hparts, hheld, ?_⟩
    show (liftM (session.device device) >>= fun target ↦
      liftM (handles.mapM session.module) >>= fun modules ↦ linkStatic target.2 modules :
        Deciding Decision) = _
    rw [hdevice, lift_ok_bind, hfound, lift_ok_bind]

theorem run_linkStatic {parts : List (ObjectId × HostModule)} (hparts : parts ≠ []) (index : Nat)
    (context : ObjectId) (ambient : Ambient) :
    ∃ after, (linkStatic (.host index context)
        (parts.map fun part ↦ (part.1, .host part.2))).run.run ambient =
      (.ok (.create (.module (.host (composite parts)))), after) := by
  have hrequire : requireHostModules (parts.map fun part ↦ (part.1, .host part.2)) = .ok parts :=
    requireHostModules_iff.2 ⟨hparts, rfl⟩
  unfold linkStatic
  simp only [hrequire]
  exact ⟨_, rfl⟩

/-- A static link of living modules succeeds. -/
theorem enter_asksComposite (hvisited : Visited program session) (hnamed : session.heap.Named)
    (hasks : session.AsksComposite set inquiry) (hset : set ≠ []) :
    session.Composes set (inquiry.enter program.toPlatform session) := by
  have hkept := hvisited.settled.kept
  obtain ⟨parts, index, context, rfl, hheld, hdecide⟩ :=
    hasks.decide_eq program.toPlatform hset
  have hparts : parts ≠ [] := by simpa using hset
  obtain ⟨ambient, hrun⟩ := run_linkStatic hparts index context session.ambient
  rw [← hdecide] at hrun
  have hsupported := inquiry.ensures_decide program.toPlatform hkept.toSound
  have hcreated := (hkept.ambient ambient).create
    (hsupported session.ambient (.create (.module (.host (composite parts)))) (by rw [hrun]))
  have hnew : Heap.hostModule? (session.heap.insert (.module (.host (composite parts)))).1
      session.heap.next = some (composite parts) := by
    rw [hostModule?_eq_some, Table.get?_insert, if_pos rfl]
  have henter : inquiry.enter program.toPlatform session = _ :=
    perform_creates hkept hsupported hrun
  rw [henter]
  refine ⟨_, session.heap.next, composite parts, rfl,
    found_create (.module (.host (composite parts))) hvisited.next_pos ?_, ?_, ?_, rfl,
    ?_, ?_⟩
  · exact module?_eq_some.2 (Sound.get?_place _ _)
  · refine Bool.eq_false_iff.2 fun hloads ↦ ?_
    obtain ⟨module, hmodule⟩ := loads_iff.1 hloads
    exact Nat.lt_irrefl _ (hkept.rooted.ordered.lt_next (hostModule?_eq_some.1 hmodule))
  · show (parts.map _).map _ = _
    rw [List.map_map]
    rfl
  · exact flattens hcreated.rooted.sound (hnamed.insert (asMade_composite hparts).named)
      (loads_iff.2 ⟨_, hnew⟩)
  · refine (leaves_of_hostModule hnew).trans ?_
    rw [composite, Code.leaves_composite, List.map_flatMap, List.flatMap_map, List.flatMap_map]
    exact List.flatMap_congr fun part hpart ↦ (leaves_of_hostModule (hheld part hpart)).symm

/-! ## What links leave alone -/

/-- What a module resolves is a matter of itself and of the code of its peers. -/
theorem address?_congr {module : HostModule} (hbefore : before.heap.hostModule? id = some module)
    (hafter : after.heap.hostModule? id = some module)
    (hpeers : ∀ peer ∈ module.peers, (after.heap.hostModule? peer).map (·.code) =
      (before.heap.hostModule? peer).map (·.code)) :
    after.peers id = before.peers id ∧
      ∀ name, after.address? id name = before.address? id name := by
  have hcodes (session : Session) :
      (session.heap.livePeers module).map (fun peer ↦ (peer.1, peer.2.code)) =
        module.peers.filterMap fun peer ↦
          ((session.heap.hostModule? peer).map (·.code)).map (peer, ·) := by
    rw [livePeers, List.map_filterMap]
    apply List.filterMap_congr
    intro peer _
    rw [Option.map_map, Option.map_map]
    rfl
  have hlive : (after.heap.livePeers module).map (fun peer ↦ (peer.1, peer.2.code)) =
      (before.heap.livePeers module).map (fun peer ↦ (peer.1, peer.2.code)) := by
    rw [hcodes, hcodes]
    exact List.filterMap_congr fun peer hpeer ↦ by rw [hpeers peer hpeer]
  constructor
  · have hids := congrArg (List.map Prod.fst) hlive
    rw [List.map_map, List.map_map] at hids
    rw [peers, peers, hbefore, hafter]
    exact hids
  · intro name
    have hfirst := congrArg (List.findSome? (·.2.resolve name)) hlive
    rw [List.findSome?_map, List.findSome?_map] at hfirst
    have hresolve : after.heap.resolveEntry? module name = before.heap.resolveEntry? module name := by
      unfold resolveEntry?
      cases module.code.resolve name with
      | some entry => rfl
      | none => exact hfirst
    rw [address?, address?, hbefore, hafter]
    simp only [Option.map_some, functionAddress, hresolve]

theorem decide_linksStatically (platform : Platform) (session : Session)
    (hlinks : inquiry.LinksStatically) :
    (inquiry.decide platform session).Ensures fun decision ↦
      (∃ records failure, decision = ⟨records, .refuse failure⟩) ∨
        ∃ module, decision = .create (.module (.host module)) := by
  have hlinkStatic (device : Device) (modules : List (ObjectId × CodeModule)) :
      (linkStatic device modules).Ensures fun decision ↦
        (∃ records failure, decision = ⟨records, .refuse failure⟩) ∨
          ∃ module, decision = .create (.module (.host module)) := by
    cases device with
    | host index context =>
      exact ensures_after _ fun parts ↦ ensures_after _ fun _ ↦
        ensures_pure (.inr ⟨composite parts, rfl⟩)
    | foreign => exact ensures_pure (.inl ⟨_, _, rfl⟩)
  cases hlinks with
  | call | request => exact ensures_after _ fun _ ↦ ensures_after _ fun _ ↦ hlinkStatic _ _

/-- A static link makes a module or does nothing to the heap. -/
theorem heap_linksStatically (platform : Platform) (hkept : session.Kept [])
    (hlinks : inquiry.LinksStatically) :
    (inquiry.enter platform session).1.heap = session.heap ∨
      ∃ module, (inquiry.enter platform session).1.heap =
        (session.heap.insert (.module (.host module))).1 := by
  have hdecide := inquiry.ensures_decide platform hkept.toSound
  have hends := decide_linksStatically platform session hlinks
  unfold Inquiry.enter
  cases hrun : (inquiry.decide platform session).run.run session.ambient with
  | mk outcome ambient =>
    cases outcome with
    | error interruption =>
      unfold perform
      rw [hrun]
      exact .inl rfl
    | ok decision =>
      rcases hends session.ambient decision (by rw [hrun]) with ⟨records, failure, rfl⟩ | ⟨module, rfl⟩
      · have hheap := congrArg Session.heap ((hkept.ambient ambient).record records).collect_eq_self
        unfold perform
        rw [hrun]
        exact .inl hheap
      · rw [perform_creates hkept hdecide hrun]
        exact .inr ⟨module, rfl⟩

/-- A static link changes no module that was there before. -/
theorem enter_linksStatically (platform : Platform) (hkept : session.Kept [])
    (hlinked : session.heap.Linked links) (hlinks : inquiry.LinksStatically)
    (hloads : session.heap.loads id = true) :
    (inquiry.enter platform session).1.heap.hostModule? id = session.heap.hostModule? id ∧
      (inquiry.enter platform session).1.peers id = session.peers id ∧
      ∀ name, (inquiry.enter platform session).1.address? id name = session.address? id name := by
  have hsame (other : ObjectId) (hold : other < session.heap.next) :
      (inquiry.enter platform session).1.heap.hostModule? other =
        session.heap.hostModule? other := by
    rcases heap_linksStatically platform hkept hlinks with hheap | ⟨made, hheap⟩
    · rw [hheap]
    · rw [hheap, Heap.hostModule?, Table.get?_insert, if_neg (Nat.ne_of_lt hold)]
      rfl
  obtain ⟨module, hmodule⟩ := loads_iff.1 hloads
  obtain ⟨hold, hpeers⟩ := hlinked.below hmodule
  have hafter := (hsame id hold).trans hmodule
  refine ⟨hsame id hold, address?_congr hmodule hafter fun peer hpeer ↦ ?_⟩
  rw [hsame peer (hpeers peer hpeer)]

/-- A dynamic link changes no code, and nothing about a module that it does not list. -/
theorem Links.keeps (hlinks : Links program session set after) (hsettled : session.Settled)
    (hloads : session.heap.loads id = true) :
    after.heap.leaves id = session.heap.leaves id ∧
      (∀ name, after.ownSymbol? id name = session.ownSymbol? id name) ∧
      (id ∉ set → after.peers id = session.peers id ∧
        ∀ name, after.address? id name = session.address? id name) := by
  obtain ⟨module, hmodule⟩ := loads_iff.1 hloads
  have hlater (other : ObjectId) : after.heap.hostModule? other = _ :=
    hlinks.heap hsettled ▸ hostModule?_link session.heap set other
  have hafter := hlater id
  rw [hmodule, Option.map_some] at hafter
  refine ⟨?_, fun name ↦ ?_, fun hnone ↦ ?_⟩
  · rw [leaves_of_hostModule hafter, leaves_of_hostModule hmodule]
  · rw [ownSymbol?_of_hostModule hafter, ownSymbol?_of_hostModule hmodule]
  · rw [List.count_eq_zero_of_not_mem hnone] at hafter
    refine address?_congr hmodule hafter fun peer _ ↦ ?_
    rw [hlater, Option.map_map]
    rfl

/-! ## What stays -/

/-- As long as a module is there, it has the name and the code that it had. -/
theorem Passes.hostModule? {later : Session} {module : HostModule}
    (hpasses : Passes program session later) (hsettled : session.Settled)
    (hmodule : session.heap.hostModule? id = some module) (hloads : later.heap.loads id = true) :
    ∃ other, later.heap.hostModule? id = some other ∧ other.name = module.name ∧
      other.code = module.code := by
  obtain ⟨log, hhistory⟩ := hpasses.history hsettled
  obtain ⟨other, hother⟩ := loads_iff.1 hloads
  have houtline := hhistory.outline_eq hsettled.kept.toSound (hostModule?_eq_some.1 hmodule)
    (hostModule?_eq_some.1 hother)
  obtain ⟨peers, hsame⟩ := Object.eq_of_outline_hostModule houtline
  obtain rfl := CodeModule.host.inj (Object.module.inj hsame)
  exact ⟨_, hother, rfl, rfl⟩

/-- Linking statically is flattening.

This holds of every session in which an operation is started, whatever modules have been linked
into one and however deep. A composite resolves its own names as the first of its leaves that
defines them, from left to right, and is named after all of them. So two modules with the same
leaves have the same name, and two whose leaves are the same up to repetition define the same.
Living modules can always be linked, which gives a module of just their leaves, and no static link
changes any module. Dynamic links change no code, and only what they list; a module asks just those
peers that a link has listed together with itself, so the peers of a part are not seen through a
composite. As long as a composite is there, whatever happens, it has the leaves, the name and the
own names that it had, and its leaves are alive. -/
theorem static_links_flatten (hvisited : Visited program session) :
    (∀ id, session.heap.loads id = true → session.Flattens id) ∧
    (∀ first second, session.heap.loads first = true → session.heap.loads second = true →
      ((session.heap.leaves first).eraseDups = (session.heap.leaves second).eraseDups →
        ∀ name, session.ownSymbol? first name = session.ownSymbol? second name) ∧
      (session.heap.leaves first = session.heap.leaves second →
        session.heap.nameOf first = session.heap.nameOf second)) ∧
    (∀ set inquiry, set ≠ [] → session.AsksComposite set inquiry →
      session.Composes set (inquiry.enter program.toPlatform session)) ∧
    (∀ (inquiry : Inquiry) after progressed, inquiry.LinksStatically →
      inquiry.enter program.toPlatform session = (after, progressed) →
        ∀ id, session.heap.loads id = true →
          after.heap.hostModule? id = session.heap.hostModule? id ∧
          after.peers id = session.peers id ∧
          ∀ name, after.address? id name = session.address? id name) ∧
    (∀ set after, Links program session set after → ∀ id, session.heap.loads id = true →
      after.heap.leaves id = session.heap.leaves id ∧
      (∀ name, after.ownSymbol? id name = session.ownSymbol? id name) ∧
      (id ∉ set → after.peers id = session.peers id ∧
        ∀ name, after.address? id name = session.address? id name)) ∧
    (∀ start links, start.Fresh → LinkHistory program start links session →
      ∀ id, session.heap.loads id = true →
        (∀ other ∈ session.peers id, ∃ set ∈ links, id ∈ set ∧ other ∈ set) ∧
        ∀ name, session.address? id name =
          some (session.firstAddress id (session.peers id) name)) ∧
    ∀ later, Passes program session later → ∀ id, session.heap.loads id = true →
      later.heap.loads id = true →
        later.heap.leaves id = session.heap.leaves id ∧
        later.heap.nameOf id = session.heap.nameOf id ∧
        (∀ name, later.ownSymbol? id name = session.ownSymbol? id name) ∧
        ∀ leaf ∈ session.heap.leaves id, later.heap.loads leaf = true := by
  have hsettled := hvisited.settled
  obtain ⟨start, links, hfresh, hhistory⟩ := hvisited.linkHistory
  have hnamed := hhistory.named hfresh
  have hlinked := (hhistory.linked hfresh).2
  have hflattens (id : ObjectId) (hloads : session.heap.loads id = true) : session.Flattens id :=
    flattens hsettled.kept.rooted.sound hnamed hloads
  refine ⟨hflattens, fun first second hfirst hsecond ↦ ⟨fun hleaves name ↦ ?_, fun hleaves ↦ ?_⟩,
    fun set inquiry hset hasks ↦ enter_asksComposite hvisited hnamed hasks hset,
    fun inquiry after progressed hlinks henter id hloads ↦ ?_,
    fun set after hlinks id hloads ↦ hlinks.keeps hsettled hloads,
    fun start links hfresh hhistory id hloads ↦ ?_,
    fun later hpasses id hloads hlater ↦ ?_⟩
  · rw [(hflattens first hfirst).resolves, (hflattens second hsecond).resolves,
      ← findSome?_eraseDups, hleaves, findSome?_eraseDups]
  · rw [(hflattens first hfirst).named.2, (hflattens second hsecond).named.2, hleaves]
  · have hkeeps := enter_linksStatically program.toPlatform hsettled.kept hlinked
      hlinks hloads
    rwa [henter] at hkeeps
  · have hfollows := followsLinks_of_linked (hhistory.linked hfresh).2
    refine ⟨fun other hother ↦ ?_, hfollows.resolves hloads⟩
    exact ((hfollows.listed hloads (hfollows.alive hother)).1 hother).2
  · obtain ⟨module, hmodule⟩ := loads_iff.1 hloads
    obtain ⟨other, hother, hname, hcode⟩ := hpasses.hostModule? hsettled hmodule hlater
    have hleaves : later.heap.leaves id = session.heap.leaves id := by
      rw [leaves_of_hostModule hother, leaves_of_hostModule hmodule, hname, hcode]
    refine ⟨hleaves, ?_, fun name ↦ ?_, fun leaf hleaf ↦ ?_⟩
    · rw [nameOf_of_hostModule hother, nameOf_of_hostModule hmodule, hname]
    · rw [ownSymbol?_of_hostModule hother, ownSymbol?_of_hostModule hmodule, hcode]
    · rw [← hleaves, leaves_of_hostModule hother] at hleaf
      obtain ⟨piece, hpiece, rfl⟩ := List.mem_map.1 hleaf
      obtain ⟨own, hown, -⟩ := (hpasses.settled hsettled).kept.rooted.sound.leaf hother piece hpiece
      exact loads_iff.2 ⟨own, hown⟩

/-- Three modules, linked into one in two ways; in the second one of them comes twice. The first one
has a peer, and its handle has been released. -/
def regrouped : Session :=
  startAll {} {} [.hostDevice 0, .symbolModule "a" [("one", "a"), ("all", "a")],
    .symbolModule "b" [("two", "b"), ("all", "b")], .symbolModule "c" [("three", "c"), ("all", "c")],
    .linkStatic 1 [2, 3], .linkStatic 1 [5, 4], .linkStatic 1 [3, 2, 4], .linkStatic 1 [2, 7],
    .symbolModule "d" [("four", "d")], .linkDynamic 1 [2, 9], .release 2]

/-- Both define the same. The peer is seen through the part, but not through what it is part of. -/
theorem static_links_flatten_regrouped :
    regrouped.heap.leaves 6 = [2, 3, 4] ∧ regrouped.heap.leaves 8 = [2, 3, 2, 4] ∧
      regrouped.heap.nameOf 8 = "a+b+a+c" ∧
      (∀ name, regrouped.ownSymbol? 6 name = regrouped.ownSymbol? 8 name) ∧
      regrouped.address? 2 "four" = some (.ok (some (.entry (.host "d")))) ∧
      regrouped.address? 8 "four" = some (.error (.symbolNotFound "four")) := by
  have hvisited : Visited {} regrouped :=
    .reachable ((runs_startAll {} {} _).reachable (.fresh ⟨rfl, rfl, rfl, rfl, rfl⟩))
  obtain ⟨-, halike, -⟩ := static_links_flatten hvisited
  have hnames := (halike 6 8 (by decide +kernel) (by decide +kernel)).1 (by decide +kernel)
  refine ⟨by decide +kernel, by decide +kernel, by decide +kernel, hnames, ?_⟩
  decide +kernel

end Session

end Offload
