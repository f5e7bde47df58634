import PgliteOxide.Pglite.SharedMemory

/-!
# The contract of shared memory

A call keeps the contract exactly where it is one the bridge can serve, and so a run does, as long
as fewer than `2 ^ 31` segments are created (`keepsContract_iff`). Behind it is an invariant of the
histories in which every call was served (`ShmHistory.Sound`): the list tells its segments apart by
id, by key and by address, each count is what the calls have made it, and a segment that is gone was
detached as often as attached.
-/

namespace PgliteOxide.Pglite

open Lib

/-! ## Ids -/

/-- Ids are not given out twice before the counter wraps. -/
lemma int32_ofNat_inj {m n : ℕ} (hm : m < 2 ^ 32) (hn : n < 2 ^ 32)
    (h : Int32.ofNat m = Int32.ofNat n) : m = n := by
  have hbits : (Int32.ofNat m).toBitVec.toNat = (Int32.ofNat n).toBitVec.toNat := by rw [h]
  have hm' : (Int32.ofNat m).toBitVec.toNat = m % 2 ^ 32 := rfl
  have hn' : (Int32.ofNat n).toBitVec.toNat = n % 2 ^ 32 := rfl
  rw [hm', hn', Nat.mod_eq_of_lt hm, Nat.mod_eq_of_lt hn] at hbits
  exact hbits

namespace ShmHistory

variable {h : ShmHistory} {events : List ShmEvent} {seg : WasixShmSegment}
  {front back : List WasixShmSegment} {shmid : Int32} {addr : UInt32}

/-! ## What was done -/

@[simp] lemma creations_created : creations (.created shmid :: events) = creations events + 1 :=
  List.countP_cons_of_pos rfl

@[simp] lemma creations_attached : creations (.attached shmid addr :: events) = creations events :=
  List.countP_cons_of_neg Bool.false_ne_true

@[simp] lemma creations_detached : creations (.detached shmid :: events) = creations events :=
  List.countP_cons_of_neg Bool.false_ne_true

@[simp] lemma attaches_created (id : Int32) :
    attaches (.created shmid :: events) id = attaches events id :=
  List.countP_cons_of_neg Bool.false_ne_true

@[simp] lemma attaches_attached (id : Int32) : attaches (.attached shmid addr :: events) id
    = attaches events id + if shmid = id then 1 else 0 := by
  unfold attaches
  rw [List.countP_cons]
  simp only [beq_iff_eq]

@[simp] lemma attaches_detached (id : Int32) :
    attaches (.detached shmid :: events) id = attaches events id :=
  List.countP_cons_of_neg Bool.false_ne_true

@[simp] lemma detaches_created (id : Int32) :
    detaches (.created shmid :: events) id = detaches events id :=
  List.countP_cons_of_neg Bool.false_ne_true

@[simp] lemma detaches_attached (id : Int32) :
    detaches (.attached shmid addr :: events) id = detaches events id :=
  List.countP_cons_of_neg Bool.false_ne_true

@[simp] lemma detaches_detached (id : Int32) : detaches (.detached shmid :: events) id
    = detaches events id + if shmid = id then 1 else 0 := by
  unfold detaches
  rw [List.countP_cons]
  simp only [beq_iff_eq]

/-- What counts as an attachment was one. -/
lemma exists_attached (hpos : 0 < attaches events shmid) :
    ∃ addr, .attached shmid addr ∈ events := by
  obtain ⟨event, hmem, hevent⟩ := List.countP_pos_iff.mp hpos
  cases event with
  | created id => cases hevent
  | attached id addr =>
    have hid : id = shmid := by simpa using hevent
    exact ⟨addr, hid ▸ hmem⟩
  | detached id => cases hevent

/-- An id that `wasix_next_shmid` has given out. -/
def Issued (events : List ShmEvent) (shmid : Int32) : Prop :=
  ∃ n, 1 ≤ n ∧ n ≤ creations events ∧ shmid = Int32.ofNat n

lemma Issued.mono {events' : List ShmEvent} (hissued : Issued events shmid)
    (hle : creations events ≤ creations events') : Issued events' shmid := by
  obtain ⟨n, hpos, hn, hid⟩ := hissued
  exact ⟨n, hpos, Nat.le_trans hn hle, hid⟩

/-! ## The invariant -/

/-- What the calls the bridge can serve keep. -/
structure Sound (h : ShmHistory) : Prop where
  next : h.shm.nextShmid = Int32.ofNat (creations h.events + 1)
  live : ∀ seg ∈ h.shm.list, Issued h.events seg.shmid
  attached : ∀ shmid addr, .attached shmid addr ∈ h.events → Issued h.events shmid
  ids : (h.shm.list.map WasixShmSegment.shmid).Nodup
  keys : (h.shm.list.map WasixShmSegment.key).Nodup
  addrs : (h.shm.list.map WasixShmSegment.addr).Nodup
  allocated : ∀ seg ∈ h.shm.list, h.shm.IsAllocated seg.addr
  count : ∀ seg ∈ h.shm.list,
    seg.nattch.toNat + detaches h.events seg.shmid = attaches h.events seg.shmid
  gone : ∀ shmid, shmid ∉ h.shm.list.map WasixShmSegment.shmid →
    detaches h.events shmid = attaches h.events shmid
  addr_eq : ∀ seg ∈ h.shm.list, ∀ addr, .attached seg.shmid addr ∈ h.events → addr = seg.addr

lemma sound_initial : initial.Sound where
  next := rfl
  live := by
    intro seg hseg
    cases hseg
  attached := by
    intro shmid addr hmem
    cases hmem
  ids := List.nodup_nil
  keys := List.nodup_nil
  addrs := List.nodup_nil
  allocated := by
    intro seg hseg
    cases hseg
  count := by
    intro seg hseg
    cases hseg
  gone := fun _ _ => rfl
  addr_eq := by
    intro seg hseg
    cases hseg

/-- **A sound history keeps the contract.** -/
lemma Sound.contract (hs : h.Sound) : ShmContract h where
  distinct := hs.ids
  onePerKey := hs.keys.filter _
  nattch_eq := by
    intro seg hseg
    have hcount := hs.count seg hseg
    omega
  memory := by
    intro shmid addr hmem hlt
    by_cases hlive : shmid ∈ h.shm.list.map WasixShmSegment.shmid
    · obtain ⟨seg, hseg, rfl⟩ := List.mem_map.mp hlive
      rw [hs.addr_eq seg hseg addr hmem]
      exact hs.allocated seg hseg
    · have hgone := hs.gone shmid hlive
      omega

/-- A segment of the list is replaced by one with its id, key and address. -/
lemma Sound.update (hs : h.Sound) (seg' : WasixShmSegment)
    (hlist : h.shm.list = front ++ seg :: back) (hid : seg'.shmid = seg.shmid)
    (hkey : seg'.key = seg.key) (haddr : seg'.addr = seg.addr)
    {events : List ShmEvent} (hcreations : creations events = creations h.events)
    (hcount : seg'.nattch.toNat + detaches events seg.shmid = attaches events seg.shmid)
    (hother : ∀ id, id ≠ seg.shmid → attaches events id = attaches h.events id ∧
      detaches events id = detaches h.events id)
    (hattached : ∀ id addr, .attached id addr ∈ events →
      .attached id addr ∈ h.events ∨ (id = seg.shmid ∧ addr = seg.addr)) :
    Sound { shm := { h.shm with list := front ++ seg' :: back }, events := events } := by
  have hmap : ∀ {κ : Type} (g : WasixShmSegment → κ), g seg' = g seg →
      (front ++ seg' :: back).map g = h.shm.list.map g := by
    intro κ g hg
    rw [hlist, List.map_append, List.map_append, List.map_cons, List.map_cons, hg]
  have hmem : ∀ s, s ∈ front ++ seg' :: back →
      s = seg' ∨ (s ∈ h.shm.list ∧ s.shmid ≠ seg.shmid) := by
    intro s hs'
    rcases mem_append_cons.mp hs' with rfl | hs'
    · exact .inl rfl
    · have hids := hs.ids
      rw [hlist] at hids
      exact .inr ⟨by rw [hlist]; exact mem_append_cons.mpr (.inr hs'), key_ne hids hs'⟩
  have hseg : seg ∈ h.shm.list := by
    rw [hlist]
    exact mem_append_cons.mpr (.inl rfl)
  have hissued : ∀ {id}, Issued h.events id → Issued events id := fun hi =>
    hi.mono (Nat.le_of_eq hcreations.symm)
  refine ⟨?_, ?_, ?_, ?_, ?_, ?_, ?_, ?_, ?_, ?_⟩
  · show h.shm.nextShmid = _
    rw [hs.next, hcreations]
  · intro s hs'
    rcases hmem s hs' with rfl | ⟨hs', -⟩
    · exact hid ▸ hissued (hs.live seg hseg)
    · exact hissued (hs.live s hs')
  · intro id addr hattach
    rcases hattached id addr hattach with hold | ⟨rfl, -⟩
    · exact hissued (hs.attached id addr hold)
    · exact hissued (hs.live seg hseg)
  · show ((front ++ seg' :: back).map _).Nodup
    rw [hmap _ hid]
    exact hs.ids
  · show ((front ++ seg' :: back).map _).Nodup
    rw [hmap _ hkey]
    exact hs.keys
  · show ((front ++ seg' :: back).map _).Nodup
    rw [hmap _ haddr]
    exact hs.addrs
  · intro s hs'
    rcases hmem s hs' with rfl | ⟨hs', -⟩
    · exact haddr ▸ hs.allocated seg hseg
    · exact hs.allocated s hs'
  · intro s hs'
    rcases hmem s hs' with rfl | ⟨hs', hne⟩
    · rw [hid]
      exact hcount
    · obtain ⟨hatt, hdet⟩ := hother s.shmid hne
      show s.nattch.toNat + detaches events s.shmid = attaches events s.shmid
      rw [hatt, hdet]
      exact hs.count s hs'
  · intro id hgone
    have hgone' : id ∉ h.shm.list.map WasixShmSegment.shmid := by
      rw [← hmap _ hid]
      exact hgone
    have hne : id ≠ seg.shmid := by
      rintro rfl
      exact hgone' (List.mem_map_of_mem hseg)
    obtain ⟨hatt, hdet⟩ := hother id hne
    show detaches events id = attaches events id
    rw [hatt, hdet]
    exact hs.gone id hgone'
  · intro s hs' addr hattach
    rcases hmem s hs' with rfl | ⟨hs', hne⟩
    · rw [haddr]
      rcases hattached _ addr hattach with hold | ⟨-, rfl⟩
      · exact hs.addr_eq seg hseg addr (hid ▸ hold)
      · rfl
    · rcases hattached _ addr hattach with hold | ⟨heq, -⟩
      · exact hs.addr_eq s hs' addr hold
      · exact absurd heq hne

/-- A segment that is detached as often as attached is removed, with its memory. -/
lemma Sound.remove (hs : h.Sound) (hlist : h.shm.list = front ++ seg :: back)
    (hcount : seg.nattch.toNat = 0) :
    Sound { h with shm := ({ h.shm with list := front ++ back } : WasixShm).free seg.addr } := by
  have hmem : ∀ s ∈ front ++ back, s ∈ h.shm.list ∧ s.addr ≠ seg.addr := by
    intro s hs'
    have haddrs := hs.addrs
    rw [hlist] at haddrs
    exact ⟨by rw [hlist]; exact mem_append_cons.mpr (.inr hs'), key_ne haddrs hs'⟩
  have hseg : seg ∈ h.shm.list := by
    rw [hlist]
    exact mem_append_cons.mpr (.inl rfl)
  have hids := hs.ids
  have hkeys := hs.keys
  have haddrs := hs.addrs
  rw [hlist] at hids hkeys haddrs
  refine ⟨hs.next, ?_, hs.attached, nodup_remove hids, nodup_remove hkeys, nodup_remove haddrs,
    ?_, ?_, ?_, ?_⟩
  · intro s hs'
    exact hs.live s (hmem s hs').1
  · intro s hs'
    obtain ⟨block, hblock, haddr⟩ := hs.allocated s (hmem s hs').1
    refine ⟨block, List.mem_filter.mpr ⟨hblock, ?_⟩, haddr⟩
    rw [haddr]
    exact bne_iff_ne.mpr (hmem s hs').2
  · intro s hs'
    exact hs.count s (hmem s hs').1
  · intro id hgone
    by_cases hid : id = seg.shmid
    · have hc := hs.count seg hseg
      rw [hid]
      show detaches h.events seg.shmid = attaches h.events seg.shmid
      omega
    · apply hs.gone
      intro hlive
      obtain ⟨s, hs', rfl⟩ := List.mem_map.mp hlive
      rw [hlist] at hs'
      rcases mem_append_cons.mp hs' with rfl | hs'
      · exact hid rfl
      · exact hgone (List.mem_map_of_mem hs')
  · intro s hs'
    exact hs.addr_eq s (hmem s hs').1

/-- The next id was never given out. -/
lemma Sound.next_not_issued (hs : h.Sound) (hbound : creations h.events + 1 < 2 ^ 31) :
    ¬ Issued h.events h.shm.nextShmid := by
  rintro ⟨n, -, hn, hid⟩
  rw [hs.next] at hid
  have heq := int32_ofNat_inj (by omega) (by omega) hid
  omega

lemma Sound.next_not_live (hs : h.Sound) (hbound : creations h.events + 1 < 2 ^ 31) :
    h.shm.nextShmid ∉ h.shm.list.map WasixShmSegment.shmid := by
  intro hmem
  obtain ⟨s, hs', heq⟩ := List.mem_map.mp hmem
  exact hs.next_not_issued hbound (heq ▸ hs.live s hs')

/-- A new segment, in a block that was not in use. -/
lemma Sound.create (hs : h.Sound) {key : Int32} {size blockSize : UInt32}
    (hkey : ∀ seg ∈ h.shm.list, seg.key ≠ key) (haddr : ¬ h.shm.IsAllocated addr)
    (hbound : creations h.events + 1 < 2 ^ 31) :
    Sound
      { shm := { list := { shmid := h.shm.nextShmid, key, size, addr, nattch := 0 } :: h.shm.list
                 nextShmid := h.shm.nextShmid + 1
                 blocks := { addr, size := blockSize } :: h.shm.blocks }
        events := .created h.shm.nextShmid :: h.events } := by
  have hnew := hs.next_not_issued hbound
  have hlive := hs.next_not_live hbound
  have hissued : ∀ {id}, Issued h.events id → Issued (.created h.shm.nextShmid :: h.events) id :=
    fun hi => hi.mono (by rw [creations_created]; omega)
  refine ⟨?_, ?_, ?_, ?_, ?_, ?_, ?_, ?_, ?_, ?_⟩
  · show h.shm.nextShmid + 1 = Int32.ofNat (creations (_ :: h.events) + 1)
    rw [creations_created, hs.next, Int32.ofNat_add (creations h.events + 1) 1]
    rfl
  · intro s hs'
    rcases List.mem_cons.mp hs' with rfl | hs'
    · exact ⟨creations h.events + 1, by omega, by rw [creations_created], hs.next⟩
    · exact hissued (hs.live s hs')
  · intro id a hattach
    rcases List.mem_cons.mp hattach with heq | hattach
    · cases heq
    · exact hissued (hs.attached id a hattach)
  · exact List.nodup_cons.mpr ⟨hlive, hs.ids⟩
  · refine List.nodup_cons.mpr ⟨?_, hs.keys⟩
    intro hmem
    obtain ⟨s, hs', heq⟩ := List.mem_map.mp hmem
    exact hkey s hs' heq
  · refine List.nodup_cons.mpr ⟨?_, hs.addrs⟩
    intro hmem
    obtain ⟨s, hs', heq⟩ := List.mem_map.mp hmem
    have heq' : s.addr = addr := heq
    exact haddr (heq' ▸ hs.allocated s hs')
  · intro s hs'
    rcases List.mem_cons.mp hs' with rfl | hs'
    · exact ⟨_, List.mem_cons_self, rfl⟩
    · obtain ⟨block, hblock, heq⟩ := hs.allocated s hs'
      exact ⟨block, List.mem_cons_of_mem _ hblock, heq⟩
  · intro s hs'
    show s.nattch.toNat + detaches (_ :: h.events) _ = attaches (_ :: h.events) _
    rw [detaches_created, attaches_created]
    rcases List.mem_cons.mp hs' with rfl | hs'
    · show 0 + detaches h.events h.shm.nextShmid = attaches h.events h.shm.nextShmid
      rw [Nat.zero_add]
      exact hs.gone _ hlive
    · exact hs.count s hs'
  · intro id hgone
    show detaches (_ :: h.events) _ = attaches (_ :: h.events) _
    rw [detaches_created, attaches_created]
    exact hs.gone id fun hmem => hgone (List.mem_cons_of_mem _ hmem)
  · intro s hs' a hattach
    rcases List.mem_cons.mp hattach with heq | hattach
    · cases heq
    · rcases List.mem_cons.mp hs' with rfl | hs'
      · exact absurd (hs.attached _ a hattach) hnew
      · exact hs.addr_eq s hs' a hattach

end ShmHistory

/-! ## What the calls do -/

namespace WasixShm

variable {shm : WasixShm} {addr : UInt32}

lemma not_isAllocated_free : ¬ (shm.free addr).IsAllocated addr := by
  rintro ⟨block, hblock, haddr⟩
  have hne := (List.mem_filter.mp hblock).2
  rw [haddr] at hne
  exact absurd rfl (bne_iff_ne.mp hne)

/-- A new block that is given back leaves nothing. -/
lemma free_new {size : UInt32} (h : ¬ shm.IsAllocated addr) :
    ({ shm with blocks := { addr, size } :: shm.blocks } : WasixShm).free addr = shm := by
  have hkept : (({ addr, size } : ShmBlock) :: shm.blocks).filter (fun block => block.addr != addr)
      = shm.blocks := by
    rw [List.filter_cons_of_neg (by simp), List.filter_eq_self]
    intro block hblock
    exact bne_iff_ne.mpr fun heq => h ⟨block, hblock, heq⟩
  unfold free
  rw [hkept]

lemma findByKey_eq_none {key : Int32} (h : shm.findByKey key = none) :
    ∀ seg ∈ shm.list, seg.key ≠ key := by
  intro seg hseg heq
  have hnot := List.find?_eq_none.mp h seg hseg
  exact hnot (beq_iff_eq.mpr heq)

/-- What `pgl_shmget` can do, when `calloc` gives a block that is not in use. -/
lemma shmget_cases (key : Int32) (size : UInt32) (shmflg pagesize : Int32) (calloc : CallocAnswers)
    (hgrant : ∀ addr, calloc.addr = some addr → ¬ shm.IsAllocated addr) :
    (∃ seg, shm.findByKey key = some seg ∧
      (shm.shmget key size shmflg pagesize calloc = (shm, .error .eexist) ∨
        shm.shmget key size shmflg pagesize calloc = (shm, .ok seg.shmid))) ∨
    (shm.findByKey key = none ∧ shmflg &&& ipcCreat = 0 ∧
      shm.shmget key size shmflg pagesize calloc = (shm, .error .enoent)) ∨
    (shm.findByKey key = none ∧ shmflg &&& ipcCreat ≠ 0 ∧
      (shm.shmget key size shmflg pagesize calloc = (shm, .error .enomem) ∨
        ∃ addr blockSize, ¬ shm.IsAllocated addr ∧
          shm.shmget key size shmflg pagesize calloc =
            ({ list := { shmid := shm.nextShmid, key, size, addr, nattch := 0 } :: shm.list
               nextShmid := shm.nextShmid + 1
               blocks := { addr, size := blockSize } :: shm.blocks }, .ok shm.nextShmid))) := by
  unfold shmget
  cases hfind : shm.findByKey key with
  | some seg =>
    refine .inl ⟨seg, rfl, ?_⟩
    by_cases hexcl : shmflg &&& ipcCreat ≠ 0 ∧ shmflg &&& ipcExcl ≠ 0
    · exact .inl (if_pos hexcl)
    · exact .inr (if_neg hexcl)
  | none =>
    by_cases hcreat : shmflg &&& ipcCreat = 0
    · exact .inr (.inl ⟨rfl, hcreat, if_pos hcreat⟩)
    · refine .inr (.inr ⟨rfl, hcreat, ?_⟩)
      simp only [if_neg hcreat]
      cases haddr : calloc.addr with
      | none => exact .inl rfl
      | some addr =>
        have hfree := hgrant addr haddr
        by_cases hentry : calloc.entry = true
        · refine .inr ⟨addr, allocSize size pagesize, hfree, ?_⟩
          simp only [if_pos hentry]
        · refine .inl ?_
          simp only [if_neg hentry, free_new hfree]

end WasixShm

namespace ShmHistory

variable {h : ShmHistory} {seg : WasixShmSegment} {front back : List WasixShmSegment}
  {shmid : Int32} {addr : UInt32}

/-- A call that changes nothing. -/
lemma step_eq_self {call : ShmCall} (hafter : after h.shm call = h.shm)
    (hevents : eventsOf h.shm call = []) : h.step call = h := by
  unfold step
  rw [hafter, hevents]
  rfl

/-! ## `pgl_shmget` -/

section Get

variable {key : Int32} {size : UInt32} {shmflg pagesize : Int32} {calloc : CallocAnswers}

/-- `pgl_shmget` creates a segment or changes nothing. -/
lemma step_shmget (hgrant : Grants h (.shmget key size shmflg pagesize calloc)) :
    h.step (.shmget key size shmflg pagesize calloc) = h ∨
    (h.shm.findByKey key = none ∧ ∃ addr blockSize, ¬ h.shm.IsAllocated addr ∧
      h.step (.shmget key size shmflg pagesize calloc) =
        { shm := { list := { shmid := h.shm.nextShmid, key, size, addr, nattch := 0 } :: h.shm.list
                   nextShmid := h.shm.nextShmid + 1
                   blocks := { addr, size := blockSize } :: h.shm.blocks }
          events := .created h.shm.nextShmid :: h.events }) := by
  have hself : ∀ {r}, h.shm.shmget key size shmflg pagesize calloc = (h.shm, r) →
      (h.shm.findByKey key = none → ∃ errno, r = .error errno) →
      h.step (.shmget key size shmflg pagesize calloc) = h := by
    intro r hr herror
    apply step_eq_self
    · show (h.shm.shmget key size shmflg pagesize calloc).1 = h.shm
      rw [hr]
    · unfold eventsOf
      simp only [hr]
      cases hfind : h.shm.findByKey key with
      | some seg => rfl
      | none =>
        obtain ⟨errno, rfl⟩ := herror hfind
        rfl
  rcases WasixShm.shmget_cases key size shmflg pagesize calloc fun a ha => (hgrant a ha).2 with
    ⟨seg, hfind, hr | hr⟩ | ⟨-, -, hr⟩ | ⟨hfind, -, hr | ⟨addr, blockSize, hfree, hr⟩⟩
  · exact .inl (hself hr fun _ => ⟨_, rfl⟩)
  · exact .inl (hself hr fun hnone => by rw [hnone] at hfind; cases hfind)
  · exact .inl (hself hr fun _ => ⟨_, rfl⟩)
  · exact .inl (hself hr fun _ => ⟨_, rfl⟩)
  · refine .inr ⟨hfind, addr, blockSize, hfree, ?_⟩
    unfold step after eventsOf
    simp only [hr, hfind]
    rfl

lemma Sound.shmget (hs : h.Sound) (hgrant : Grants h (.shmget key size shmflg pagesize calloc))
    (hbound : creations (h.step (.shmget key size shmflg pagesize calloc)).events < 2 ^ 31) :
    (h.step (.shmget key size shmflg pagesize calloc)).Sound := by
  rcases step_shmget hgrant with hstep | ⟨hfind, addr, blockSize, hfree, hstep⟩
  · rw [hstep]
    exact hs
  · rw [hstep] at hbound ⊢
    rw [creations_created] at hbound
    exact hs.create (WasixShm.findByKey_eq_none hfind) hfree hbound

/-- A private segment is fresh exactly where the call for it can be served. -/
lemma Sound.privateIsFresh_iff (hs : h.Sound)
    (hgrant : Grants h (.shmget key size shmflg pagesize calloc))
    (hbound : creations (h.step (.shmget key size shmflg pagesize calloc)).events < 2 ^ 31) :
    PrivateIsFresh h (.shmget key size shmflg pagesize calloc) ↔
      ShmCall.Supported h (.shmget key size shmflg pagesize calloc) := by
  unfold PrivateIsFresh ShmCall.Supported
  refine forall_congr' fun hprivate => ?_
  rcases WasixShm.shmget_cases key size shmflg pagesize calloc fun a ha => (hgrant a ha).2 with
    ⟨seg, hfind, hr⟩ | ⟨hfind, hcreat, hr⟩ | ⟨hfind, hcreat, hr | ⟨addr, blockSize, hfree, hr⟩⟩
  · -- there is a private segment: it is returned, or the call fails
    have hseg : seg ∈ h.shm.list := List.mem_of_find?_eq_some hfind
    have hkey : seg.key = key := by simpa using List.find?_some hfind
    have hnot : ¬ (shmflg &&& ipcCreat ≠ 0 ∧ ∀ seg ∈ h.shm.list, seg.key ≠ ipcPrivate) := fun hsup =>
      hsup.2 seg hseg (hkey.trans hprivate)
    rcases hr with hr | hr
    · rw [hr]
      simp only [hnot, reduceCtorEq]
    · rw [hr]
      have hmem : seg.shmid ∈ h.shm.list.map WasixShmSegment.shmid := List.mem_map_of_mem hseg
      simp only [hnot, hmem, not_true, false_and]
  · rw [hr]
    simp only [hcreat, ne_eq, not_true, false_and, reduceCtorEq]
  · rw [hr]
    have hnone := WasixShm.findByKey_eq_none hfind
    rw [hprivate] at hnone
    simp only [true_iff]
    exact ⟨hcreat, hnone⟩
  · have hnone := WasixShm.findByKey_eq_none hfind
    rw [hprivate] at hnone
    have hcreations : creations h.events + 1 < 2 ^ 31 := by
      have hevents : eventsOf h.shm (.shmget key size shmflg pagesize calloc)
          = [.created h.shm.nextShmid] := by
        unfold eventsOf
        simp only [hr, hfind]
      have hstep : (h.step (.shmget key size shmflg pagesize calloc)).events
          = .created h.shm.nextShmid :: h.events := by
        unfold step
        rw [hevents]
        rfl
      rw [hstep, creations_created] at hbound
      exact hbound
    rw [hr]
    exact ⟨fun _ => ⟨hcreat, hnone⟩, fun _ => ⟨hs.next_not_live hcreations, List.mem_cons_self⟩⟩

end Get

/-! ## `pgl_shmat` -/

/-- An attachment of a segment of the list. -/
lemma step_shmat (hlist : h.shm.list = front ++ seg :: back)
    (hfront : ∀ s ∈ front, (s.shmid == seg.shmid) = false) :
    h.step (.shmat seg.shmid) =
      { shm := { h.shm with list := front ++ { seg with nattch := seg.nattch + 1 } :: back }
        events := .attached seg.shmid seg.addr :: h.events } := by
  have hself : (seg.shmid == seg.shmid) = true := beq_self_eq_true _
  have hfind : h.shm.findById seg.shmid = some seg := by
    unfold WasixShm.findById
    rw [hlist]
    exact find?_append_first hself hfront
  have hupdate : updateFirst (fun s => s.shmid == seg.shmid)
      (fun s => { s with nattch := s.nattch + 1 }) h.shm.list
      = front ++ { seg with nattch := seg.nattch + 1 } :: back := by
    rw [hlist]
    exact updateFirst_append hself hfront
  unfold step after eventsOf WasixShm.shmat
  simp only [hfind, hupdate]
  rfl

lemma uint32_toNat_add_one (n : UInt32) : (n + 1).toNat = (n.toNat + 1) % 2 ^ 32 :=
  UInt32.toNat_add n 1

lemma Sound.shmat (hs : h.Sound) (hsup : ShmCall.Supported h (.shmat shmid)) :
    (h.step (.shmat shmid)).Sound := by
  cases hfind : h.shm.findById shmid with
  | none =>
    have hself : h.step (.shmat shmid) = h := by
      apply step_eq_self
      · show (h.shm.shmat shmid).1 = h.shm
        unfold WasixShm.shmat
        rw [hfind]
      · unfold eventsOf WasixShm.shmat
        simp only [hfind]
    rw [hself]
    exact hs
  | some seg =>
    obtain ⟨front, back, hlist, hseg, hfront⟩ := find?_split hfind
    obtain rfl : seg.shmid = shmid := by simpa using hseg
    have hmem : seg ∈ h.shm.list := List.mem_of_find?_eq_some hfind
    have hlt := hsup seg hmem rfl
    have hcount := hs.count seg hmem
    rw [step_shmat hlist hfront]
    apply hs.update { seg with nattch := seg.nattch + 1 } hlist rfl rfl rfl
    · exact creations_attached
    · rw [detaches_attached, attaches_attached, if_pos rfl, uint32_toNat_add_one,
        Nat.mod_eq_of_lt hlt]
      omega
    · intro id hid
      rw [detaches_attached, attaches_attached, if_neg (Ne.symm hid)]
      exact ⟨rfl, rfl⟩
    · intro id a hattach
      rcases List.mem_cons.mp hattach with heq | hattach
      · cases heq
        exact .inr ⟨rfl, rfl⟩
      · exact .inl hattach

/-- A count that comes to its end is no longer attaches minus detaches. -/
lemma Sound.supported_shmat (hs : h.Sound) (hc : ShmContract (h.step (.shmat shmid))) :
    ShmCall.Supported h (.shmat shmid) := by
  intro seg hmem hid
  subst hid
  obtain ⟨front, back, hlist, hfront⟩ := split_of_mem hs.ids hmem
  rw [step_shmat hlist hfront] at hc
  have hcount := hs.count seg hmem
  have hnattch := hc.nattch_eq { seg with nattch := seg.nattch + 1 }
    (mem_append_cons.mpr (.inl rfl))
  simp only [attaches_attached, detaches_attached, if_true, uint32_toNat_add_one] at hnattch
  by_contra hge
  have hmod : (seg.nattch.toNat + 1) % 2 ^ 32 < 2 ^ 32 := Nat.mod_lt _ (by decide)
  omega

/-! ## `pgl_shmdt` -/

/-- An attachment of a segment of the list is undone. -/
lemma step_shmdt (hlist : h.shm.list = front ++ seg :: back)
    (hfront : ∀ s ∈ front, (s.addr == seg.addr) = false) :
    h.step (.shmdt seg.addr) =
      { shm := { h.shm with list := front ++
          (if seg.nattch > 0 then { seg with nattch := seg.nattch - 1 } else seg) :: back }
        events := .detached seg.shmid :: h.events } := by
  have hself : (seg.addr == seg.addr) = true := beq_self_eq_true _
  have hfind : h.shm.findByAddr seg.addr = some seg := by
    unfold WasixShm.findByAddr
    rw [hlist]
    exact find?_append_first hself hfront
  have hupdate : updateFirst (fun s => s.addr == seg.addr)
      (fun s => if s.nattch > 0 then { s with nattch := s.nattch - 1 } else s) h.shm.list
      = front ++ (if seg.nattch > 0 then { seg with nattch := seg.nattch - 1 } else seg) :: back := by
    rw [hlist]
    exact updateFirst_append hself hfront
  unfold step after eventsOf WasixShm.shmdt
  simp only [hfind, hupdate]
  rfl

lemma uint32_toNat_sub_one {n : UInt32} (hpos : 0 < n.toNat) : (n - 1).toNat = n.toNat - 1 :=
  UInt32.toNat_sub_of_le n 1 (UInt32.le_iff_toNat_le.mpr hpos)

lemma uint32_pos_iff {n : UInt32} : n > 0 ↔ 0 < n.toNat := UInt32.lt_iff_toNat_lt

lemma Sound.shmdt (hs : h.Sound) (hsup : ShmCall.Supported h (.shmdt addr)) :
    (h.step (.shmdt addr)).Sound := by
  cases hfind : h.shm.findByAddr addr with
  | none =>
    have hself : h.step (.shmdt addr) = h := by
      apply step_eq_self
      · show (h.shm.shmdt addr).1 = h.shm
        unfold WasixShm.shmdt
        rw [hfind]
      · unfold eventsOf
        simp only [hfind]
    rw [hself]
    exact hs
  | some seg =>
    obtain ⟨front, back, hlist, hseg, hfront⟩ := find?_split hfind
    obtain rfl : seg.addr = addr := by simpa using hseg
    have hmem : seg ∈ h.shm.list := List.mem_of_find?_eq_some hfind
    have hpos := hsup seg hmem rfl
    have hcount := hs.count seg hmem
    rw [step_shmdt hlist hfront, if_pos (uint32_pos_iff.mpr hpos)]
    apply hs.update { seg with nattch := seg.nattch - 1 } hlist rfl rfl rfl
    · exact creations_detached
    · rw [detaches_detached, attaches_detached, if_pos rfl, uint32_toNat_sub_one hpos]
      omega
    · intro id hid
      rw [detaches_detached, attaches_detached, if_neg (Ne.symm hid)]
      exact ⟨rfl, rfl⟩
    · intro id a hattach
      rcases List.mem_cons.mp hattach with heq | hattach
      · cases heq
      · exact .inl hattach

/-- A count of zero stays, and is no longer attaches minus detaches. -/
lemma Sound.supported_shmdt (hs : h.Sound) (hc : ShmContract (h.step (.shmdt addr))) :
    ShmCall.Supported h (.shmdt addr) := by
  intro seg hmem haddr
  subst haddr
  obtain ⟨front, back, hlist, hfront⟩ := split_of_mem hs.addrs hmem
  have hcount := hs.count seg hmem
  by_contra hzero
  rw [step_shmdt hlist hfront, if_neg (fun hpos => hzero (uint32_pos_iff.mp hpos))] at hc
  have hnattch := hc.nattch_eq seg (mem_append_cons.mpr (.inl rfl))
  simp only [attaches_detached, detaches_detached, if_true] at hnattch
  omega

/-! ## `pgl_shmctl` -/

section Ctl

variable {cmd : Int32} {buf : Option ShmidDs}

/-- A segment of the list is removed. -/
lemma step_shmctl_rmid (hlist : h.shm.list = front ++ seg :: back)
    (hfront : ∀ s ∈ front, (s.shmid == seg.shmid) = false) :
    h.step (.shmctl seg.shmid ipcRmid buf) =
      { h with shm := ({ h.shm with list := front ++ back } : WasixShm).free seg.addr } := by
  have hself : (seg.shmid == seg.shmid) = true := beq_self_eq_true _
  have hfind : h.shm.findById seg.shmid = some seg := by
    unfold WasixShm.findById
    rw [hlist]
    exact find?_append_first hself hfront
  have herase : (h.shm.list.eraseP fun s => s.shmid == seg.shmid) = front ++ back := by
    rw [hlist]
    exact eraseP_append_first hself hfront
  unfold step after eventsOf WasixShm.shmctl
  simp only [hfind, if_true, herase]
  rfl

lemma Sound.shmctl (hs : h.Sound) (hsup : ShmCall.Supported h (.shmctl shmid cmd buf)) :
    (h.step (.shmctl shmid cmd buf)).Sound := by
  have hself : (h.shm.shmctl shmid cmd buf).1 = h.shm →
      (h.step (.shmctl shmid cmd buf)).Sound := by
    intro hafter
    have hstep : h.step (.shmctl shmid cmd buf) = h := step_eq_self hafter rfl
    rw [hstep]
    exact hs
  cases hfind : h.shm.findById shmid with
  | none =>
    apply hself
    unfold WasixShm.shmctl
    rw [hfind]
  | some seg =>
    obtain ⟨front, back, hlist, hseg, hfront⟩ := find?_split hfind
    obtain rfl : seg.shmid = shmid := by simpa using hseg
    have hmem : seg ∈ h.shm.list := List.mem_of_find?_eq_some hfind
    by_cases hrmid : cmd = ipcRmid
    · subst hrmid
      rw [step_shmctl_rmid hlist hfront]
      exact hs.remove hlist (hsup rfl seg hmem rfl)
    · by_cases hstat : cmd = ipcStat
      · apply hself
        unfold WasixShm.shmctl
        simp only [hfind, if_neg hrmid, if_pos hstat]
        cases buf <;> rfl
      · by_cases hset : cmd = ipcSet
        · cases buf with
          | none =>
            apply hself
            unfold WasixShm.shmctl
            simp only [hfind, if_neg hrmid, if_neg hstat, if_pos hset]
          | some ds =>
            have hupdate : updateFirst (fun s => s.shmid == seg.shmid)
                (fun s => { s with size := ds.segsz }) h.shm.list
                = front ++ { seg with size := ds.segsz } :: back := by
              rw [hlist]
              exact updateFirst_append (beq_self_eq_true seg.shmid) hfront
            have hstep : h.step (.shmctl seg.shmid cmd (some ds)) =
                { shm := { h.shm with list := front ++ { seg with size := ds.segsz } :: back }
                  events := h.events } := by
              unfold step after eventsOf WasixShm.shmctl
              simp only [hfind, if_neg hrmid, if_neg hstat, if_pos hset, hupdate]
              rfl
            rw [hstep]
            exact hs.update { seg with size := ds.segsz } hlist rfl rfl rfl rfl (hs.count seg hmem)
              (fun _ _ => ⟨rfl, rfl⟩) fun _ _ hattach => .inl hattach
        · apply hself
          unfold WasixShm.shmctl
          simp only [hfind, if_neg hrmid, if_neg hstat, if_neg hset]

/-- The memory of a segment that is attached goes with it. -/
lemma Sound.supported_shmctl (hs : h.Sound) (hc : ShmContract (h.step (.shmctl shmid cmd buf))) :
    ShmCall.Supported h (.shmctl shmid cmd buf) := by
  intro hrmid seg hmem hid
  subst hrmid hid
  obtain ⟨front, back, hlist, hfront⟩ := split_of_mem hs.ids hmem
  rw [step_shmctl_rmid hlist hfront] at hc
  have hcount := hs.count seg hmem
  by_contra hne
  obtain ⟨addr, hattach⟩ := exists_attached (show 0 < attaches h.events seg.shmid by omega)
  have haddr : addr = seg.addr := hs.addr_eq seg hmem addr hattach
  have hallocated := hc.memory seg.shmid addr hattach
    (show detaches h.events seg.shmid < attaches h.events seg.shmid by omega)
  rw [haddr] at hallocated
  exact WasixShm.not_isAllocated_free hallocated

end Ctl

/-! ## Runs -/

/-- The calls of a run that are considered: `calloc` keeps its promise, and the ids do not run out. -/
def Legal (h : ShmHistory) (call : ShmCall) : Prop :=
  Grants h call ∧ creations (h.step call).events < 2 ^ 31

lemma Sound.step {call : ShmCall} (hs : h.Sound) (hlegal : Legal h call)
    (hsup : ShmCall.Supported h call) : (h.step call).Sound := by
  cases call with
  | shmget key size shmflg pagesize calloc => exact hs.shmget hlegal.1 hlegal.2
  | shmat shmid => exact hs.shmat hsup
  | shmdt addr => exact hs.shmdt hsup
  | shmctl shmid cmd buf => exact hs.shmctl hsup

/-- A call keeps the contract exactly where it can be served. -/
lemma Sound.keepsContract_call_iff {call : ShmCall} (hs : h.Sound) (hlegal : Legal h call) :
    KeepsContract h call ↔ ShmCall.Supported h call := by
  constructor
  · rintro ⟨hfresh, hc⟩
    cases call with
    | shmget key size shmflg pagesize calloc =>
      exact (hs.privateIsFresh_iff hlegal.1 hlegal.2).mp hfresh
    | shmat shmid => exact hs.supported_shmat hc
    | shmdt addr => exact hs.supported_shmdt hc
    | shmctl shmid cmd buf => exact hs.supported_shmctl hc
  · intro hsup
    refine ⟨?_, (hs.step hlegal hsup).contract⟩
    cases call with
    | shmget key size shmflg pagesize calloc =>
      exact (hs.privateIsFresh_iff hlegal.1 hlegal.2).mpr hsup
    | shmat shmid => trivial
    | shmdt addr => trivial
    | shmctl shmid cmd buf => trivial

/-- No call takes back what was created. -/
lemma creations_le_step (h : ShmHistory) (call : ShmCall) :
    creations h.events ≤ creations (h.step call).events := by
  unfold step creations
  rw [List.countP_append]
  omega

lemma creations_le_run (h : ShmHistory) (calls : List ShmCall) :
    creations h.events ≤ creations (calls.foldl step h).events := by
  induction calls generalizing h with
  | nil => exact Nat.le_refl _
  | cons call calls ih => exact Nat.le_trans (h.creations_le_step call) (ih (h.step call))

lemma legal_of_granted {calls : List ShmCall} (hgrants : Along step Grants h calls)
    (hbound : creations (calls.foldl step h).events < 2 ^ 31) : Along step Legal h calls := by
  induction calls generalizing h with
  | nil => trivial
  | cons call calls ih =>
    have hhead := creations_le_run (h.step call) calls
    exact ⟨⟨hgrants.1, Nat.lt_of_le_of_lt hhead hbound⟩, ih hgrants.2 hbound⟩

end ShmHistory

/-- **Shared memory keeps its contract exactly in the runs whose calls can be served**, as long as
fewer than `2 ^ 31` segments are created. -/
theorem keepsContract_iff (calls : List ShmCall)
    (hgrants : Along ShmHistory.step Grants .initial calls)
    (hbound : ShmHistory.creations (calls.foldl ShmHistory.step .initial).events < 2 ^ 31) :
    Along ShmHistory.step KeepsContract .initial calls ↔
      Along ShmHistory.step ShmCall.Supported .initial calls :=
  along_iff ShmHistory.sound_initial (ShmHistory.legal_of_granted hgrants hbound)
    (fun _ _ hs hlegal hsup => hs.step hlegal hsup)
    fun _ _ hs hlegal => hs.keepsContract_call_iff hlegal

/-- A segment that is created, attached, detached and removed. -/
def shmUse : List ShmCall :=
  [.shmget 4242 64 (ipcCreat ||| ipcExcl) 65536 { addr := some 65536, entry := true }, .shmat 1,
    .shmctl 1 ipcStat (some { key := 0, segsz := 0, nattch := 0 }), .shmdt 65536,
    .shmctl 1 ipcRmid none]

theorem keepsContract_iff_shmUse : Along ShmHistory.step KeepsContract .initial shmUse :=
  (keepsContract_iff shmUse (by decide) (by decide)).mpr (by decide)

/-- Two private segments are asked for. -/
def shmTwoPrivate : List ShmCall :=
  [.shmget ipcPrivate 64 ipcCreat 65536 { addr := some 65536, entry := true },
    .shmget ipcPrivate 64 ipcCreat 65536 { addr := some 131072, entry := true }]

/-- A segment is removed while it is attached. -/
def shmRemoveAttached : List ShmCall :=
  [.shmget 4242 64 ipcCreat 65536 { addr := some 65536, entry := true }, .shmat 1,
    .shmctl 1 ipcRmid none]

/-- The second private segment is the first one, and what is attached loses its memory. -/
theorem shm_contract_broken :
    (Along ShmHistory.step Grants .initial shmTwoPrivate ∧
      ¬ Along ShmHistory.step KeepsContract .initial shmTwoPrivate) ∧
    (Along ShmHistory.step Grants .initial shmRemoveAttached ∧
      ¬ Along ShmHistory.step KeepsContract .initial shmRemoveAttached) := by
  refine ⟨⟨by decide, ?_⟩, by decide, ?_⟩
  · rintro ⟨-, ⟨hfresh, -⟩, -⟩
    have hsecond := hfresh rfl
    have hlive : (1 : Int32) ∉ ([1] : List Int32) := hsecond.1
    exact hlive List.mem_cons_self
  · rintro ⟨-, -, ⟨-, hcontract⟩, -⟩
    have hallocated := hcontract.memory 1 65536 (by decide) (by decide)
    exact absurd hallocated (by decide)

end PgliteOxide.Pglite
