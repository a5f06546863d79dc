import Offload.Proofs.Queue.Coverage
import Offload.Proofs.Session.Creating
import Offload.Proofs.Session.Handles
import Offload.Proofs.Session.Names

/-!
# Looking a name up for its address and for a kernel

A module's names are looked up in two ways: for the address alone, and for a kernel, which also
records the module whose code the entry is in. Both come to the same provider of the name: the
module itself, or the first of its living peers whose own code defines the name.
-/

namespace Offload

open Deciding Heap

/-! ## Two searches -/

/-- The search for an address is the search for an entry and its owner, with the owner left out. -/
theorem Heap.resolveEntry?_eq_map (heap : Heap) (id : ObjectId) (module : HostModule)
    (name : String) :
    heap.resolveEntry? module name = (heap.resolveOwner? id module name).map (·.1) := by
  unfold resolveEntry? resolveOwner?
  cases module.code.resolve name with
  | some entry => rfl
  | none =>
    simp only
    rw [List.map_findSome?]
    congr 1
    funext peer
    rw [Function.comp_apply]
    cases peer.2.code.resolve name <;> rfl

namespace Session

variable {program : Program} {platform : Platform} {session : Session} {id owner other : ObjectId}
  {module : HostModule} {name : String} {entry : Entry}

/-! ## Providers of names -/

/-- A module takes an entry for a name from a provider: from itself, if its own code defines the
name, and otherwise from the living peer that defines it when no peer before does. -/
inductive Provides (session : Session) (name : String) (id : ObjectId) : ObjectId → Entry → Prop where
  | own {entry : Entry} (hown : session.ownSymbol? id name = some entry) :
    Provides session name id id entry
  | peer {entry : Entry} {provider : ObjectId} {earlier later : List ObjectId}
    (hnone : session.ownSymbol? id name = none)
    (hpeers : session.peers id = earlier ++ provider :: later)
    (hearlier : ∀ peer ∈ earlier, session.ownSymbol? peer name = none)
    (hdefines : session.ownSymbol? provider name = some entry) :
    Provides session name id provider entry

theorem resolveOwner?_eq (hmodule : session.heap.hostModule? id = some module) (name : String) :
    session.heap.resolveOwner? id module name =
      match session.ownSymbol? id name with
      | some entry => some (entry, id)
      | none => (session.peers id).findSome? fun peer ↦
          (session.ownSymbol? peer name).map (·, peer) := by
  have hown : session.ownSymbol? id name = module.code.resolve name := by
    rw [ownSymbol?, hmodule, Option.bind_some]
  have hpeers : session.peers id = (session.heap.livePeers module).map (·.1) := by
    rw [peers, hmodule]
  unfold resolveOwner?
  rw [hown, hpeers, List.findSome?_map]
  cases module.code.resolve name with
  | some entry => rfl
  | none =>
    simp only
    rw [← List.head?_filterMap, ← List.head?_filterMap]
    congr 1
    refine List.filterMap_congr fun peer hpeer ↦ ?_
    obtain ⟨other, -, hother⟩ := List.mem_filterMap.1 hpeer
    obtain ⟨found, hfound, rfl⟩ := Option.map_eq_some_iff.1 hother
    simp [ownSymbol?, hfound]

/-- The search for an entry and its owner finds the provider of the name. -/
theorem resolveOwner?_eq_some_iff (hmodule : session.heap.hostModule? id = some module) :
    session.heap.resolveOwner? id module name = some (entry, owner) ↔
      session.Provides name id owner entry := by
  rw [resolveOwner?_eq hmodule]
  constructor
  · intro hfound
    cases hown : session.ownSymbol? id name with
    | some found =>
      rw [hown] at hfound
      obtain ⟨rfl, rfl⟩ := Prod.mk.inj (Option.some.inj hfound)
      exact .own hown
    | none =>
      rw [hown] at hfound
      obtain ⟨earlier, provider, later, hpeers, hdefines, hearlier⟩ :=
        List.findSome?_eq_some_iff.1 hfound
      obtain ⟨found, hdefined, hpair⟩ := Option.map_eq_some_iff.1 hdefines
      obtain ⟨rfl, rfl⟩ := Prod.mk.inj hpair
      exact .peer hown hpeers (fun peer hpeer ↦ Option.map_eq_none_iff.1 (hearlier peer hpeer))
        hdefined
  · rintro (hown | ⟨hnone, hpeers, hearlier, hdefines⟩)
    · rw [hown]
    · rw [hnone]
      refine List.findSome?_eq_some_iff.2 ⟨_, _, _, hpeers, ?_, fun peer hpeer ↦ ?_⟩
      · rw [hdefines, Option.map_some]
      · rw [hearlier peer hpeer, Option.map_none]

/-! ## Asking for an address or a kernel -/

/-- An inquiry asks for the address behind a name of a module. -/
inductive AsksAddress (module : Handle) (name : String) : Inquiry → Prop where
  | call {raw : RawText} (hname : Call.decodeText raw "name" = .ok name) :
    AsksAddress module name (.call (.functionAddress module raw))
  | request : AsksAddress module name (.request (.functionAddress module name))

/-- An inquiry asks for a kernel of a module, on a device. -/
inductive AsksKernel (device module : Handle) (name : String) : Inquiry → Prop where
  | call {raw : RawText} (hname : Call.decodeText raw "name" = .ok name) :
    AsksKernel device module name (.call (.newKernel device module raw))
  | request : AsksKernel device module name (.request (.newKernel device module name))

theorem enter_asksAddress {handle : Handle} {inquiry : Inquiry}
    (hmodule : session.module handle = .ok (id, .host module))
    (hasks : AsksAddress handle name inquiry) :
    (inquiry.enter platform session).2 =
      match session.heap.resolveOwner? id module name with
      | some (entry, _) => .reply (.code (some (.entry entry)))
      | none => .failed (.symbolNotFound name) := by
  have hdecide : inquiry.decide platform session =
      ((liftM (session.functionAddress (.host module) name) : Deciding _) >>= fun address ↦
        return .answer (.code address)) := by
    cases hasks with
    | @call raw hname =>
      show (liftM (Call.decodeText raw "name") >>= fun name ↦ liftM (session.module handle) >>=
        fun found ↦ liftM (session.functionAddress found.2 name) >>= fun address ↦
          return .answer (.code address) : Deciding Decision) = _
      rw [hname, lift_ok_bind, hmodule, lift_ok_bind]
    | request =>
      show (liftM (session.module handle) >>= fun found ↦
        liftM (session.functionAddress found.2 name) >>= fun address ↦
          return .answer (.code address) : Deciding Decision) = _
      rw [hmodule, lift_ok_bind]
  unfold Inquiry.enter
  rw [hdecide]
  unfold functionAddress
  simp only [session.heap.resolveEntry?_eq_map id module name]
  cases session.heap.resolveOwner? id module name <;> rfl

theorem decide_asksKernel {device handle : Handle} {host context : ObjectId} {index : Nat}
    {inquiry : Inquiry} (hdevice : session.device device = .ok (host, .host index context))
    (hmodule : session.module handle = .ok (id, .host module))
    (hasks : AsksKernel device handle name inquiry) :
    inquiry.decide platform session =
      match session.heap.resolveOwner? id module name with
      | some (entry, owner) => pure (.create (.kernel (.host ⟨name, entry, id, owner⟩)))
      | none => refuse (.symbolNotFound name) := by
  have hnew : session.newKernel (.host index context) (id, .host module) name =
      match session.heap.resolveOwner? id module name with
      | some (entry, owner) => pure (.create (.kernel (.host ⟨name, entry, id, owner⟩)))
      | none => refuse (.symbolNotFound name) := rfl
  rw [← hnew]
  cases hasks with
  | @call raw hname =>
    show (liftM (Call.decodeText raw "name") >>= fun name ↦ liftM (session.device device) >>=
      fun found ↦ liftM (session.module handle) >>= fun asked ↦
        session.newKernel found.2 asked name : Deciding Decision) = _
    rw [hname, lift_ok_bind, hdevice, lift_ok_bind, hmodule, lift_ok_bind]
  | request =>
    show (liftM (session.device device) >>= fun found ↦ liftM (session.module handle) >>=
      fun asked ↦ session.newKernel found.2 asked name : Deciding Decision) = _
    rw [hdevice, lift_ok_bind, hmodule, lift_ok_bind]

/-- Asking for an address and asking for a kernel find the same provider of a name.

This holds of every session in which an operation is started, whatever modules have been linked and
whichever of them are gone, for every module of the host and every name. A name has one provider at
most. If it has one, the answer to the first question is the entry that the provider's own code
gives the name, and the second one ends with a handle for a kernel with this entry, which records
the provider as the owner of its code. Otherwise both fail, and for the same reason. -/
theorem lookups_agree (hvisited : Visited program session) {device handle : Handle}
    {host context : ObjectId} {index : Nat}
    (hdevice : session.device device = .ok (host, .host index context))
    (hmodule : session.module handle = .ok (id, .host module)) (name : String)
    {forAddress forKernel : Inquiry} (haddress : AsksAddress handle name forAddress)
    (hkernel : AsksKernel device handle name forKernel) :
    (∀ owner entry other second, session.Provides name id owner entry →
      session.Provides name id other second → owner = other ∧ entry = second) ∧
    ((∃ owner entry, session.Provides name id owner entry ∧
        (forAddress.enter program.toPlatform session).2 = .reply (.code (some (.entry entry))) ∧
        ∃ after made kernel,
          forKernel.enter program.toPlatform session = (after, .reply (.handle made)) ∧
          after.kernel made = .ok (kernel, .host ⟨name, entry, id, owner⟩)) ∨
      ((∀ owner entry, ¬session.Provides name id owner entry) ∧
        (forAddress.enter program.toPlatform session).2 = .failed (.symbolNotFound name) ∧
        (forKernel.enter program.toPlatform session).2 = .failed (.symbolNotFound name))) := by
  have hkept := hvisited.settled.kept
  have hheld : session.heap.hostModule? id = some module :=
    hostModule?_eq_some.2 (module?_eq_some.1 (lookup_eq_ok hmodule).2)
  have hprovides {owner : ObjectId} {entry : Entry} :
      session.heap.resolveOwner? id module name = some (entry, owner) ↔
        session.Provides name id owner entry := resolveOwner?_eq_some_iff hheld
  refine ⟨fun owner entry other second hfirst hsecond ↦ ?_, ?_⟩
  · have hsame := Option.some.inj ((hprovides.2 hfirst).symm.trans (hprovides.2 hsecond))
    exact ⟨congrArg Prod.snd hsame, congrArg Prod.fst hsame⟩
  rw [enter_asksAddress hmodule haddress]
  have hdecide : forKernel.decide program.toPlatform session = _ :=
    decide_asksKernel hdevice hmodule hkernel
  cases hfound : session.heap.resolveOwner? id module name with
  | some found =>
    obtain ⟨entry, owner⟩ := found
    simp only [hfound] at hdecide
    refine .inl ⟨owner, entry, hprovides.1 hfound, rfl, ?_⟩
    have hrun : (forKernel.decide program.toPlatform session).run.run session.ambient =
        (.ok (.create (.kernel (.host ⟨name, entry, id, owner⟩))), session.ambient) := by
      rw [hdecide]
      rfl
    refine ⟨_, _, _, perform_creates hkept (forKernel.ensures_decide _ hkept.toSound) hrun,
      found_create (.kernel (.host ⟨name, entry, id, owner⟩)) hvisited.next_pos ?_⟩
    exact kernel?_eq_some.2 (Sound.get?_place _ _)
  | none =>
    simp only [hfound] at hdecide
    refine .inr ⟨fun owner entry howner ↦ ?_, rfl, ?_⟩
    · rw [hprovides.2 howner] at hfound
      exact absurd hfound (by simp)
    · unfold Inquiry.enter
      rw [hdecide]
      rfl

/-- A module without a routine of its own, linked with two that define one name; the first of them
is gone. -/
def bereft : Session :=
  startAll {} {} [.hostDevice 0, .symbolModule "caller" [], .symbolModule "lost" [("run", "lost")],
    .symbolModule "kept" [("run", "kept")], .linkDynamic 1 [2, 3, 4], .release 3]

/-- The name is taken from the peer that is left. -/
theorem lookups_agree_bereft :
    ((Inquiry.request (.functionAddress 2 "run")).enter {} bereft).2 =
        .reply (.code (some (.entry (.host "kept")))) ∧
      ∃ after made kernel,
        (Inquiry.request (.newKernel 1 2 "run")).enter {} bereft = (after, .reply (.handle made)) ∧
          after.kernel made = .ok (kernel, .host ⟨"run", .host "kept", 2, 4⟩) := by
  have hvisited : Visited {} bereft :=
    .reachable ((runs_startAll {} {} _).reachable (.fresh ⟨rfl, rfl, rfl, rfl, rfl⟩))
  have hdevice : bereft.device 1 = .ok (1, .host 0 0) := rfl
  have hmodule : bereft.module 2 = .ok (2, .host
      { name := "caller", code := .symbols [], peers := [3, 4] }) := rfl
  have hpeers : bereft.peers 2 = [] ++ 4 :: [] := by decide +kernel
  have hprovides : bereft.Provides "run" 2 4 (.host "kept") :=
    .peer (by decide +kernel) hpeers (by simp) (by decide +kernel)
  obtain ⟨hunique, ⟨owner, entry, hfound, haddress, hkernel⟩ | ⟨hnone, -⟩⟩ :=
    lookups_agree hvisited hdevice hmodule "run" .request .request
  · obtain ⟨rfl, rfl⟩ := hunique _ _ _ _ hfound hprovides
    exact ⟨haddress, hkernel⟩
  · exact absurd hprovides (hnone _ _)

end Session

end Offload
