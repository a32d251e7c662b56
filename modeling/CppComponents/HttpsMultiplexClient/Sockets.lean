import Mathlib.Algebra.Order.BigOperators.Group.List
import CppComponents.HttpsMultiplexClient.Io
import CppComponents.HttpsMultiplexClient.Requests

/-!
# Who owns a socket

A socket is opened for curl, and closed when curl releases its descriptor. Curl
names it by the descriptor, and the system gives the number of a closed descriptor
to the next socket. `Tracked` is what `socket_map` is in every run: the open
sockets, each under its own descriptor, all of them curl's.

`do_cancel()` closes the sockets in the map, but curl keeps the connections of
finished transfers, and releases their descriptors later; by then a number may be
that of another socket. `Agreement` holds as long as `do_cancel()` finds that
curl owns no socket.
-/

namespace CppComponents.HttpsMultiplexClient

open CppComponents.Transition

variable {H : Type}

namespace Io

/-- The map has exactly the open sockets, under their descriptors. -/
structure Tracked (s : Io) : Prop where
  mapped : ∀ fd id, s.socketMap.lookup fd = some id →
    (s.sockets id).isOpen = true ∧ (s.sockets id).fd = fd
  isOpen : ∀ id, (s.sockets id).isOpen = true →
    s.socketMap.lookup (s.sockets id).fd = some id ∧ id ∈ s.owned
  owned : ∀ id ∈ s.owned, id < s.opened
  nodup : s.owned.Nodup

/-- Nothing changes of the sockets but the waits. -/
structure SameSockets (s s' : Io) : Prop where
  socketMap : s'.socketMap = s.socketMap
  opened : s'.opened = s.opened
  owned : s'.owned = s.owned
  closed : s'.closed = s.closed
  isOpen : ∀ id, (s'.sockets id).isOpen = (s.sockets id).isOpen
  fd : ∀ id, (s'.sockets id).fd = (s.sockets id).fd

/-! ## Operations that change only the waits -/

/-- A change of the waits is none of the sockets. -/
theorem SameSockets.updateSocket (s : Io) (id : Nat) {f : TcpSocket → TcpSocket}
    (hopen : (f (s.sockets id)).isOpen = (s.sockets id).isOpen)
    (hfd : (f (s.sockets id)).fd = (s.sockets id).fd) : SameSockets s (s.updateSocket id f) := by
  refine ⟨rfl, rfl, rfl, rfl, fun other => ?_, fun other => ?_⟩
  · by_cases hother : other = id
    · subst hother
      simpa [Io.updateSocket] using hopen
    · simp [Io.updateSocket, Function.update_of_ne hother]
  · by_cases hother : other = id
    · subst hother
      simpa [Io.updateSocket] using hfd
    · simp [Io.updateSocket, Function.update_of_ne hother]

/-- What curl wants of a socket does not open or close one. -/
theorem SameSockets.setSocket (s : Io) (fd : Nat) (action : CurlPoll) :
    SameSockets s (s.setSocket fd action) := by
  unfold Io.setSocket
  simp only
  split
  · exact ⟨rfl, rfl, rfl, rfl, fun _ => rfl, fun _ => rfl⟩
  · rename_i id _
    obtain ⟨hmap, hopened, howned, hclosed, hopen, hfd⟩ :=
      SameSockets.updateSocket s id (f := (·.cancel.armWatches action)) (by simp) (by simp)
    exact ⟨hmap, hopened, howned, hclosed, hopen, hfd⟩

theorem SameSockets.removeSocket (s : Io) (fd : Nat) : SameSockets s (s.removeSocket fd) :=
  ⟨rfl, rfl, rfl, rfl, fun _ => rfl, fun _ => rfl⟩

theorem SameSockets.setTimer (s : Io) (timeoutMs : Int) : SameSockets s (s.setTimer timeoutMs) := by
  unfold Io.setTimer
  split <;> exact ⟨rfl, rfl, rfl, rfl, fun _ => rfl, fun _ => rfl⟩

/-- A call of curl that neither opens nor closes a socket. -/
theorem call_cases (s : Io) (call : CurlCall) :
    SameSockets s (s.call call) ∨
      (∃ choice, Opens call = true ∧ s.call call = s.openSocket choice) ∨
      ∃ id ∈ s.owned, call = .closeSocket id ∧ s.call call = s.releaseSocket id := by
  cases call with
  | socket fd what assignOk =>
    refine .inl ?_
    simp only [Io.call]
    split
    · exact .removeSocket s fd
    · exact .setSocket s fd what
  | timer timeoutMs => exact .inl (.setTimer s timeoutMs)
  | openSocket purpose family openError nonBlockingError choice =>
    by_cases hopens : Opens (.openSocket purpose family openError nonBlockingError choice) = true
    · exact .inr (.inl ⟨choice, hopens, if_pos hopens⟩)
    · rw [Io.call, if_neg hopens]
      exact .inl ⟨rfl, rfl, rfl, rfl, fun _ => rfl, fun _ => rfl⟩
  | closeSocket id =>
    by_cases hid : id ∈ s.owned
    · exact .inr (.inr ⟨id, hid, rfl, if_pos hid⟩)
    · rw [Io.call, if_neg hid]
      exact .inl ⟨rfl, rfl, rfl, rfl, fun _ => rfl, fun _ => rfl⟩
  | write | header | done => exact .inl ⟨rfl, rfl, rfl, rfl, fun _ => rfl, fun _ => rfl⟩

/-- The map depends on the descriptors and on what is open. -/
theorem Tracked.same {s s' : Io} (h : Tracked s) (hs : SameSockets s s') : Tracked s' where
  mapped := fun fd id hid => by
    rw [hs.isOpen, hs.fd]
    exact h.mapped fd id (hs.socketMap ▸ hid)
  isOpen := fun id hid => by
    rw [hs.socketMap, hs.fd, hs.owned]
    exact h.isOpen id (hs.isOpen id ▸ hid)
  owned := by
    rw [hs.owned, hs.opened]
    exact h.owned
  nodup := by
    rw [hs.owned]
    exact h.nodup

/-! ## Opening and closing -/

/-- The system gives a descriptor that no open socket has. -/
theorem freeDescriptor_not_mem (s : Io) (choice : Nat) :
    s.freeDescriptor choice ∉ s.openDescriptors := by
  unfold freeDescriptor
  split
  · intro hmem
    have := List.le_sum_of_mem hmem
    omega
  · assumption

/-- A free descriptor is not in the map. -/
theorem Tracked.lookup_freeDescriptor {s : Io} (h : Tracked s) (choice : Nat) :
    s.socketMap.lookup (s.freeDescriptor choice) = none := by
  rcases hlookup : s.socketMap.lookup (s.freeDescriptor choice) with _ | id
  · rfl
  · obtain ⟨hopen, hfd⟩ := h.mapped _ _ hlookup
    have hlt : id < s.opened := h.owned id (h.isOpen id hopen).2
    refine absurd ?_ (s.freeDescriptor_not_mem choice)
    rw [← hfd]
    exact List.mem_map.mpr ⟨id, List.mem_filter.mpr ⟨List.mem_range.mpr hlt, hopen⟩, rfl⟩

/-- Opening a socket adds it to the map. -/
theorem Tracked.openSocket_eq {s : Io} (h : Tracked s) (choice : Nat) :
    s.openSocket choice = { s with
      sockets := Function.update s.sockets s.opened ⟨s.freeDescriptor choice, true, []⟩
      opened := s.opened + 1
      socketMap := s.socketMap.insert (s.freeDescriptor choice) s.opened
      owned := s.owned ++ [s.opened]
      interest := Function.update s.interest (s.freeDescriptor choice) .pollNone } := by
  unfold Io.openSocket Io.storeSocket
  simp only [h.lookup_freeDescriptor choice]

/-- A new socket enters the map under its descriptor. -/
theorem Tracked.openSocket {s : Io} (h : Tracked s) (choice : Nat) :
    Tracked (s.openSocket choice) := by
  have hfree := h.lookup_freeDescriptor choice
  have hnew : s.opened ∉ s.owned := fun hmem => Nat.lt_irrefl _ (h.owned _ hmem)
  rw [h.openSocket_eq choice]
  refine ⟨fun fd id hid => ?_, fun id hid => ?_, fun id hid => ?_, ?_⟩
  -- the descriptor is free, so no entry of the map is overwritten
  · by_cases hfd : fd = s.freeDescriptor choice
    · subst hfd
      rw [AList.lookup_insert] at hid
      obtain rfl := Option.some.inj hid
      simp
    · rw [AList.lookup_insert_ne hfd] at hid
      obtain ⟨hopen, heq⟩ := h.mapped fd id hid
      have hne : id ≠ s.opened := fun heq => hnew (heq ▸ (h.isOpen id hopen).2)
      simpa only [Function.update_of_ne hne] using ⟨hopen, heq⟩
  · simp only at hid ⊢
    by_cases hne : id = s.opened
    · subst hne
      rw [Function.update_self]
      exact ⟨AList.lookup_insert _, List.mem_append_right _ (List.mem_singleton.mpr rfl)⟩
    · rw [Function.update_of_ne hne] at hid ⊢
      obtain ⟨hlookup, howned⟩ := h.isOpen id hid
      have hfd : (s.sockets id).fd ≠ s.freeDescriptor choice := fun heq => by
        rw [heq, hfree] at hlookup
        cases hlookup
      exact ⟨(AList.lookup_insert_ne hfd).trans hlookup, List.mem_append_left _ howned⟩
  · rcases List.mem_append.mp hid with hid | hid
    · exact Nat.lt_succ_of_lt (h.owned id hid)
    · rw [List.mem_singleton.mp hid]
      exact Nat.lt_succ_self _
  · refine List.nodup_append.mpr ⟨h.nodup, List.nodup_singleton _, fun a ha b hb => ?_⟩
    rw [List.mem_singleton.mp hb]
    exact fun heq => hnew (heq ▸ ha)

theorem updateSocket_self (s : Io) (id : Nat) (f : TcpSocket → TcpSocket) :
    (s.updateSocket id f).sockets id = f (s.sockets id) := by
  simp [Io.updateSocket]

theorem updateSocket_of_ne (s : Io) {id other : Nat} (f : TcpSocket → TcpSocket)
    (hne : other ≠ id) : (s.updateSocket id f).sockets other = s.sockets other :=
  Function.update_of_ne hne _ _

/-- A released socket leaves the map; where its descriptor is another's, that one is
closed. -/
theorem Tracked.releaseSocket {s : Io} (h : Tracked s) (id : Nat) :
    Tracked (s.releaseSocket id) := by
  have howned : ∀ other ∈ s.owned.erase id, other < s.opened :=
    fun other hother => h.owned other (List.mem_of_mem_erase hother)
  rcases hlookup : s.socketMap.lookup (s.sockets id).fd with _ | mapped
  -- the descriptor is not in the map: it was closed before curl releases it
  · rw [releaseSocket_of_none hlookup]
    refine ⟨h.mapped, fun other hother => ?_, howned, h.nodup.erase id⟩
    obtain ⟨hmap, hmem⟩ := h.isOpen other hother
    have hne : other ≠ id := fun heq => by
      rw [heq, hlookup] at hmap
      cases hmap
    exact ⟨hmap, (List.mem_erase_of_ne hne).mpr hmem⟩
  -- the socket in the map is closed, and it need not be the one curl closes
  · obtain ⟨-, hfd⟩ := h.mapped _ _ hlookup
    rw [releaseSocket_of_some hlookup]
    refine ⟨fun fd other hother => ?_, fun other hother => ?_, howned, h.nodup.erase id⟩
    · have hfd' : fd ≠ (s.sockets id).fd := fun heq => by
        rw [heq, AList.lookup_erase] at hother
        cases hother
      rw [AList.lookup_erase_ne hfd'] at hother
      obtain ⟨hopen, heq⟩ := h.mapped fd other hother
      have hne : other ≠ mapped := fun hsame => hfd' (by rw [← heq, hsame, hfd])
      simp only [Function.update_of_ne hne]
      exact ⟨hopen, heq⟩
    · simp only at hother ⊢
      have hne : other ≠ mapped := fun heq => by
        rw [heq, Function.update_self] at hother
        cases hother
      rw [Function.update_of_ne hne] at hother ⊢
      obtain ⟨hmap, hmem⟩ := h.isOpen other hother
      have hfd' : (s.sockets other).fd ≠ (s.sockets id).fd := fun heq => by
        rw [heq, hlookup] at hmap
        exact hne (Option.some.inj hmap).symm
      have hid : other ≠ id := fun heq => hfd' (by rw [heq])
      rw [AList.lookup_erase_ne hfd']
      exact ⟨hmap, (List.mem_erase_of_ne hid).mpr hmem⟩

theorem owned_releaseSocket (s : Io) (id : Nat) :
    (s.releaseSocket id).owned = s.owned.erase id ∧ (s.releaseSocket id).opened = s.opened := by
  unfold Io.releaseSocket
  simp only
  split <;> exact ⟨rfl, rfl⟩

/-- A descriptor stays that of its socket when the socket is closed. -/
theorem fd_releaseSocket (s : Io) (id other : Nat) :
    ((s.releaseSocket id).sockets other).fd = (s.sockets other).fd := by
  rcases hlookup : s.socketMap.lookup (s.sockets id).fd with _ | mapped
  · rw [releaseSocket_of_none hlookup]
  · rw [releaseSocket_of_some hlookup]
    by_cases hother : other = mapped
    · subst hother
      simp
    · simp [Function.update_of_ne hother]

/-- A socket keeps its descriptor. -/
theorem Tracked.fd_call {s : Io} (h : Tracked s) (call : CurlCall) {id : Nat}
    (hid : id < s.opened) :
    ((s.call call).sockets id).fd = (s.sockets id).fd ∧ id < (s.call call).opened := by
  rcases s.call_cases call with hsame | ⟨choice, -, heq⟩ | ⟨other, -, -, heq⟩
  · rw [hsame.fd, hsame.opened]
    exact ⟨rfl, hid⟩
  · rw [heq, h.openSocket_eq choice]
    constructor
    · simp only [Function.update_of_ne (Nat.ne_of_lt hid)]
    · exact Nat.lt_succ_of_lt hid
  · rw [heq, fd_releaseSocket, (s.owned_releaseSocket other).2]
    exact ⟨rfl, hid⟩

/-- One case for each call that curl can make. -/
theorem Tracked.call {s : Io} (h : Tracked s) (call : CurlCall) : Tracked (s.call call) := by
  rcases s.call_cases call with hsame | ⟨choice, -, heq⟩ | ⟨id, -, -, heq⟩
  · exact h.same hsame
  · rw [heq]
    exact h.openSocket choice
  · rw [heq]
    exact h.releaseSocket id

/-- What the second loop of `do_cancel()` does to the sockets. -/
theorem closeSockets_spec (entries : List (Sigma fun _ : Nat => Nat)) :
    ∀ s : Io,
      let s' := entries.foldl (fun s entry => s.closeSocket entry.2) s
      s'.opened = s.opened ∧ s'.owned = s.owned ∧
        s'.closed = s.closed ++ entries.map (fun entry => ⟨entry.2, entry.2 ∈ s.owned⟩) ∧
        ∀ id, ((s'.sockets id).isOpen = true →
          (s.sockets id).isOpen = true ∧ ∀ entry ∈ entries, entry.2 ≠ id) := by
  induction entries with
  | nil => exact fun s => ⟨rfl, rfl, by simp, fun id hid => ⟨hid, by simp⟩⟩
  | cons entry entries ih =>
    intro s
    obtain ⟨hopened, howned, hclosed, hopen⟩ := ih (s.closeSocket entry.2)
    refine ⟨hopened, howned, ?_, fun id hid => ?_⟩
    · rw [List.foldl_cons, hclosed]
      exact List.append_assoc ..
    · obtain ⟨hid, hentries⟩ := hopen id hid
      have hid : ((s.updateSocket entry.2 .close).sockets id).isOpen = true := hid
      have hne : id ≠ entry.2 := fun heq => by
        rw [heq, updateSocket_self] at hid
        cases hid
      rw [updateSocket_of_ne s _ hne] at hid
      refine ⟨hid, fun other hother => ?_⟩
      rcases List.mem_cons.mp hother with rfl | hother
      · exact hne.symm
      · exact hentries other hother

/-- `do_cancel()` leaves no socket open. -/
theorem Tracked.isOpen_closeAll {s : Io} (h : Tracked s) (id : Nat) :
    (s.closeAll.sockets id).isOpen = false := by
  rw [Bool.eq_false_iff]
  intro hid
  obtain ⟨hopen, hentries⟩ := (closeSockets_spec s.socketMap.entries s).2.2.2 id hid
  exact hentries _ (AList.mem_lookup_iff.mp (h.isOpen id hopen).1) rfl

/-- `do_cancel()` closes every socket and empties the map. -/
theorem Tracked.closeAll {s : Io} (h : Tracked s) : Tracked s.closeAll := by
  obtain ⟨hopened, howned, -, -⟩ := closeSockets_spec s.socketMap.entries s
  refine ⟨fun fd id hid => ?_, fun id hid => ?_, ?_, ?_⟩
  · cases hid
  · rw [h.isOpen_closeAll id] at hid
    cases hid
  · show ∀ id ∈ (List.foldl _ s _).owned, id < (List.foldl _ s _).opened
    rw [howned, hopened]
    exact h.owned
  · show (List.foldl _ s _).owned.Nodup
    rw [howned]
    exact h.nodup

end Io

/-! ## The steps of the system -/

namespace Io

theorem SameSockets.refl (s : Io) : SameSockets s s :=
  ⟨rfl, rfl, rfl, rfl, fun _ => rfl, fun _ => rfl⟩

/-- A wait is taken off a socket, or fires. -/
theorem SameSockets.setWaits (s : Io) (id : Nat) (waits : List SocketWait) :
    SameSockets s (s.updateSocket id fun _ => { s.sockets id with waits := waits }) :=
  .updateSocket s id rfl rfl

end Io

/-- After curl has run, `event_callback()` touches no more than waits. -/
theorem Client.eventCallback_same (c : Client H) (id : Nat) :
    ∃ c', Follows c c' ∧ Io.SameSockets c'.io (c.eventCallback id).io ∧
      (c.eventCallback id).script = c'.script := by
  have hspec := c.eventCallback_spec id
  generalize c.eventCallback id = c'' at hspec
  cases hspec with
  | ignored => exact ⟨c, .of_eq rfl rfl, .refl _, rfl⟩
  | failed | unwatched => exact ⟨_, .socketAction c, .refl _, rfl⟩
  | idle =>
    exact ⟨_, .socketAction c, ⟨rfl, rfl, rfl, rfl, fun _ => rfl, fun _ => rfl⟩, rfl⟩
  | @rearmed _ _ _ action _ =>
    rw [armSocketWatches_eq]
    exact ⟨_, .socketAction c, Io.SameSockets.updateSocket c.socketAction.io id
      (f := (·.armWatches action)) (by simp) (by simp), rfl⟩

/-- Apart from waits, a step does to the sockets what curl's calls do; and after
them `do_cancel()` closes all that are in the map. -/
theorem step_sockets {c c' : Client H} {e : Event H} (he : step c e = some c') :
    (∃ c₁ c₂ : Client H, Io.SameSockets c.io c₁.io ∧ Client.Follows c₁ c₂ ∧
      Io.SameSockets c₂.io c'.io ∧ ∀ order script, e ≠ .cancel order script) ∨
    ∃ order script, e = .cancel order script ∧ ∃ c₁ c₂ : Client H,
      Io.SameSockets c.io c₁.io ∧ Client.Follows c₁ c₂ ∧ c'.io = c₂.io.closeAll ∧
        c₁.script = script ∧ c₂.script = [] := by
  have hsame : ∀ {c' : Client H}, Io.SameSockets c.io c'.io → ∃ c₁ c₂ : Client H,
      Io.SameSockets c.io c₁.io ∧ Client.Follows c₁ c₂ ∧ Io.SameSockets c₂.io c'.io :=
    fun {c'} h => ⟨c', c', h, .of_eq rfl rfl, .refl _⟩
  cases step_spec he with
  | request args easyInit script hscript =>
    exact .inl ⟨{ c with script := script }, _, .refl c.io, .doRequest _ args easyInit, .refl _,
      fun _ _ h => by cases h⟩
  -- only here is the map emptied
  | @cancel order script horder hscript =>
    obtain ⟨hio, hrest⟩ := Client.doCancel_io { c with script := script } order
    refine .inr ⟨order, script, rfl, _, _, ?_,
      .cancelConnections { c with script := script } order, hio, rfl, hrest ▸ hscript⟩
    exact ⟨rfl, rfl, rfl, rfl, fun _ => rfl, fun _ => rfl⟩
  | @watch id direction socket script hdeliver hscript =>
    obtain ⟨-, -, rfl⟩ := TcpSocket.deliver_eq_some hdeliver
    obtain ⟨c₂, hfollows, hsame, -⟩ := Client.eventCallback_same
      { c.updateSocket id fun _ => { c.sockets id with
        waits := (c.sockets id).waits.erase ⟨direction, .fired⟩ } with script := script } id
    refine .inl ⟨_, c₂, ?_, hfollows, hsame, fun _ _ h => by cases h⟩
    exact .setWaits c.io id ((c.sockets id).waits.erase ⟨direction, .fired⟩)
  | @watchAborted id wait socket hwait hdeliver =>
    obtain ⟨-, -, rfl⟩ := TcpSocket.deliver_eq_some hdeliver
    exact .inl ⟨c, c, .refl _, .of_eq rfl rfl,
      .setWaits c.io id ((c.sockets id).waits.erase wait), fun _ _ h => by cases h⟩
  | timer script hwait hdeliver =>
    refine .inl ⟨_, _, ?_, .asioTimerCallback _, .refl _, fun _ _ h => by cases h⟩
    exact ⟨rfl, rfl, rfl, rfl, fun _ => rfl, fun _ => rfl⟩
  | setCaCertificate | timerAborted | tick | expire =>
    refine .inl ⟨c, c, .refl _, .of_eq rfl rfl, ?_, fun _ _ h => by cases h⟩
    exact ⟨rfl, rfl, rfl, rfl, fun _ => rfl, fun _ => rfl⟩
  | @ready id direction socket hfire =>
    obtain ⟨-, rfl⟩ := TcpSocket.fire_eq_some hfire
    exact .inl ⟨c, c, .refl _, .of_eq rfl rfl, .setWaits c.io id _, fun _ _ h => by cases h⟩

/-- A new client has no socket. -/
theorem Io.tracked_create (multi : Bool) (now : Int) :
    Io.Tracked (Client.create multi now : Client H).io where
  mapped := fun fd id hid => by cases hid
  isOpen := fun id hid => by cases hid
  owned := fun id hid => by cases hid
  nodup := List.nodup_nil

/-- The map has the open sockets after every event. -/
theorem Io.Tracked.step {c c' : Client H} {e : Event H} (h : Io.Tracked c.io)
    (he : step c e = some c') : Io.Tracked c'.io := by
  have hcalls : ∀ s call, Io.Tracked s → Io.Tracked (s.call call) := fun _ call h => h.call call
  rcases step_sockets he with
    ⟨c₁, c₂, h₁, hfollows, h₂, -⟩ | ⟨order, script, -, c₁, c₂, h₁, hfollows, heq, -, -⟩
  · exact (hfollows.invariant hcalls (h.same h₁)).same h₂
  · rw [heq]
    exact (hfollows.invariant (I := Io.Tracked) hcalls (h.same h₁)).closeAll

/-- The map tracks the open sockets in every run. -/
theorem tracked_of_reachable {ok : Guard (Client H) (Event H)} {c : Client H}
    (hr : Reachable (system H) ok c) : Io.Tracked c.io := by
  refine hr.invariant (I := fun c => Io.Tracked c.io) ?_ fun c e c' h _ he => h.step he
  rintro c ⟨multi, now, rfl⟩
  exact Io.tracked_create multi now

/-! ## Agreement -/

/-- The map has exactly the sockets curl owns, and no socket was closed while curl
owned it. When `close_socket_callback` closes another socket than the one curl is
releasing, that is one curl owns. -/
structure Agreement (c : Client H) : Prop where
  owned : ∀ id ∈ c.curl.owned, c.socketMap.lookup (c.sockets id).fd = some id
  mapped : ∀ fd id, c.socketMap.lookup fd = some id →
    id ∈ c.curl.owned ∧ (c.sockets id).fd = fd ∧ (c.sockets id).isOpen = true
  closed : ∀ close ∈ c.closed, close.owned = false

namespace Io

/-- The sockets of curl are open, and none was closed too early. -/
structure Agreed (s : Io) : Prop where
  tracked : Tracked s
  isOpen : ∀ id ∈ s.owned, (s.sockets id).isOpen = true
  closed : ∀ close ∈ s.closed, close.owned = false

/-- The agreement depends on the descriptors and on what is open. -/
theorem Agreed.same {s s' : Io} (h : Agreed s) (hs : SameSockets s s') : Agreed s' where
  tracked := h.tracked.same hs
  isOpen := fun id hid => by
    rw [hs.isOpen]
    exact h.isOpen id (hs.owned ▸ hid)
  closed := by
    rw [hs.closed]
    exact h.closed

/-- A new socket is curl's and in the map. -/
theorem Agreed.openSocket {s : Io} (h : Agreed s) (choice : Nat) :
    Agreed (s.openSocket choice) := by
  refine ⟨h.tracked.openSocket choice, fun id hid => ?_, ?_⟩
  · rw [h.tracked.openSocket_eq choice] at hid ⊢
    simp only at hid ⊢
    by_cases hne : id = s.opened
    · subst hne
      rw [Function.update_self]
    · rw [Function.update_of_ne hne]
      refine h.isOpen id ((List.mem_append.mp hid).resolve_right fun hid => ?_)
      exact hne (List.mem_singleton.mp hid)
  · rw [h.tracked.openSocket_eq choice]
    exact h.closed

/-- Curl releases a descriptor, and its own socket is closed. -/
theorem Agreed.releaseSocket {s : Io} (h : Agreed s) {id : Nat} (hid : id ∈ s.owned) :
    Agreed (s.releaseSocket id) ∧ (s.releaseSocket id).closed = s.closed ++ [⟨id, false⟩] := by
  have hlookup : s.socketMap.lookup (s.sockets id).fd = some id :=
    (h.tracked.isOpen id (h.isOpen id hid)).1
  have hgone : id ∉ s.owned.erase id := h.tracked.nodup.not_mem_erase
  have htracked := h.tracked.releaseSocket id
  have heq := releaseSocket_of_some hlookup
  rw [decide_eq_false hgone] at heq
  refine ⟨⟨htracked, fun other hother => ?_, fun close hclose => ?_⟩, by rw [heq]⟩
  · rw [heq] at hother ⊢
    simp only at hother ⊢
    have hne : other ≠ id := fun heq => hgone (heq ▸ hother)
    rw [Function.update_of_ne hne]
    exact h.isOpen other (List.mem_of_mem_erase hother)
  · rw [heq] at hclose
    rcases List.mem_append.mp hclose with hclose | hclose
    · exact h.closed close hclose
    · rw [List.mem_singleton.mp hclose]

/-- One case for each call that curl can make: it closes none but its own. -/
theorem Agreed.call {s : Io} (h : Agreed s) (call : CurlCall) : Agreed (s.call call) := by
  rcases s.call_cases call with hsame | ⟨choice, -, heq⟩ | ⟨id, hid, -, heq⟩
  · exact h.same hsame
  · rw [heq]
    exact h.openSocket choice
  · rw [heq]
    exact (h.releaseSocket hid).1

/-- `do_cancel()` closes nothing if curl owns nothing. -/
theorem Agreed.closeAll {s : Io} (h : Agreed s) (hnone : s.owned = []) : Agreed s.closeAll := by
  have hempty : s.socketMap.entries = [] := by
    refine List.eq_nil_iff_forall_not_mem.mpr fun ⟨fd, id⟩ hentry => ?_
    have hopen := (h.tracked.mapped fd id (AList.mem_lookup_iff.mpr hentry)).1
    have hmem := (h.tracked.isOpen id hopen).2
    rw [hnone] at hmem
    cases hmem
  refine ⟨h.tracked.closeAll, ?_, ?_⟩
  · unfold Io.closeAll
    rw [hempty]
    exact h.isOpen
  · unfold Io.closeAll
    rw [hempty]
    exact h.closed

/-- What the invariant says of the client. -/
theorem Agreed.agreement {c : Client H} (h : Agreed c.io) : Agreement c where
  owned := fun id hid => (h.tracked.isOpen id (h.isOpen id hid)).1
  mapped := fun fd id hid => by
    obtain ⟨hopen, hfd⟩ := h.tracked.mapped fd id hid
    exact ⟨(h.tracked.isOpen id hopen).2, hfd, hopen⟩
  closed := h.closed

end Io

/-! ## When `do_cancel()` may run -/

/-- What curl owns and how many sockets have been opened, after a call. -/
def ownedStep : List Nat × Nat → CurlCall → List Nat × Nat
  | (owned, opened), .closeSocket id => (owned.erase id, opened)
  | (owned, opened), call =>
    if Io.Opens call then (owned ++ [opened], opened + 1) else (owned, opened)

/-- `do_cancel()` runs only when curl owns no socket once it has removed the handles. -/
def cancelsWithoutSockets : Guard (Client H) (Event H)
  | c, .cancel _ script =>
    ((script.flatMap CurlRun.calls).foldl ownedStep (c.curl.owned, c.opened)).1 = []
  | _, _ => True

instance (c : Client H) (e : Event H) : Decidable (cancelsWithoutSockets c e) :=
  match e with
  | .cancel _ _ => inferInstanceAs (Decidable (_ = _))
  | .request _ _ _ | .setCaCertificate _ | .watch _ _ _ | .timer _ _ | .ready _ _ | .tick _
  | .expire _ => isTrue trivial

/-- What curl owns after a call is decided by the calls, not by the client. -/
theorem Io.owned_call (s : Io) (call : CurlCall) :
    ((s.call call).owned, (s.call call).opened) = ownedStep (s.owned, s.opened) call := by
  cases call with
  | socket fd what assignOk =>
    simp only [Io.call]
    split
    · rfl
    · rw [(SameSockets.setSocket s fd what).owned, (SameSockets.setSocket s fd what).opened]
      rfl
  | timer timeoutMs =>
    show ((s.setTimer timeoutMs).owned, (s.setTimer timeoutMs).opened) = _
    rw [(SameSockets.setTimer s timeoutMs).owned, (SameSockets.setTimer s timeoutMs).opened]
    rfl
  | openSocket purpose family openError nonBlockingError choice =>
    simp only [Io.call, ownedStep]
    split
    · unfold Io.openSocket Io.storeSocket
      simp only
      split <;> rfl
    · rfl
  | closeSocket id =>
    simp only [Io.call, ownedStep]
    split
    · unfold Io.releaseSocket
      simp only
      split <;> rfl
    · rename_i hid
      rw [List.erase_of_not_mem hid]
  | write | header | done => rfl

/-- What curl owns after a script. -/
theorem Client.Follows.owned {c c' : Client H} (h : Follows c c') (hscript : c'.script = []) :
    (c'.io.owned, c'.io.opened) =
      (c.script.flatMap CurlRun.calls).foldl ownedStep (c.io.owned, c.io.opened) := by
  obtain ⟨runs, hruns, hio⟩ := h
  rw [hruns, hscript, List.append_nil, hio]
  generalize runs.flatMap CurlRun.calls = calls
  generalize c.io = s
  induction calls generalizing s with
  | nil => rfl
  | cons call calls ih => rw [List.foldl_cons, List.foldl_cons, ih, Io.owned_call]

/-- `do_cancel()` closes what is left, and under the condition that is nothing of curl's. -/
theorem Io.Agreed.step {c c' : Client H} {e : Event H} (h : Io.Agreed c.io)
    (hok : cancelsWithoutSockets c e) (he : step c e = some c') : Io.Agreed c'.io := by
  rcases step_sockets he with
    ⟨c₁, c₂, h₁, hfollows, h₂, -⟩ | ⟨order, script, rfl, c₁, c₂, h₁, hfollows, heq, hc₁, hc₂⟩
  · exact (hfollows.invariant (I := Io.Agreed) (fun _ call h => h.call call) (h.same h₁)).same h₂
  · have hagreed := hfollows.invariant (I := Io.Agreed) (fun _ call h => h.call call) (h.same h₁)
    have howned := congrArg Prod.fst (hfollows.owned hc₂)
    rw [h₁.owned, h₁.opened, hc₁] at howned
    rw [heq]
    exact hagreed.closeAll (howned.trans hok)

/-- The agreement holds in every run whose `do_cancel()` finds curl without sockets. -/
theorem agreed_of_reachable {c : Client H} (hr : Reachable (system H) cancelsWithoutSockets c) :
    Io.Agreed c.io := by
  refine hr.invariant (I := fun c => Io.Agreed c.io) ?_ fun c e c' h hok he => h.step hok he
  rintro c ⟨multi, now, rfl⟩
  exact {
    tracked := Io.tracked_create multi now
    isOpen := fun id hid => by cases hid
    closed := fun close hclose => by cases hclose }

/-- **The map agrees with curl.** In every run in which `do_cancel()` finds no socket
that curl owns:

- the map has exactly the sockets curl owns, each under its own descriptor, all of
  them open, and no socket was closed while curl owned it;
- when curl releases a descriptor next, the socket that is closed is the one that
  was opened for it;
- a `do_cancel()` that finds a socket which curl owns ends this. -/
theorem sockets_agree {c : Client H} (hr : Reachable (system H) cancelsWithoutSockets c) :
    Agreement c ∧
    (∀ id ∈ c.curl.owned, (c.curlCall (.closeSocket id)).closed = c.closed ++ [⟨id, false⟩]) ∧
    ∀ order script c', step c (.cancel order script) = some c' →
      (Agreement c' ↔ cancelsWithoutSockets c (.cancel order script)) := by
  have h := agreed_of_reachable hr
  refine ⟨h.agreement, fun id hid => ?_, fun order script c' he => ⟨fun hagree => ?_, fun hok =>
    (h.step hok he).agreement⟩⟩
  · have hrelease := (h.releaseSocket hid).2
    rw [← c.handleCloseSocket_io hid] at hrelease
    exact hrelease
  · rcases step_sockets he with
      ⟨-, -, -, -, -, hne⟩ | ⟨_, _, hevent, c₁, c₂, h₁, hfollows, heq, hc₁, hc₂⟩
    · exact absurd rfl (hne order script)
    · obtain ⟨rfl, rfl⟩ := Event.cancel.inj hevent
      have howned := congrArg Prod.fst (hfollows.owned hc₂)
      rw [h₁.owned, h₁.opened, hc₁] at howned
      refine howned.symm.trans (List.eq_nil_iff_forall_not_mem.mpr fun id hid => ?_)
      have hmem : id ∈ c'.io.owned := by
        rw [heq]
        show id ∈ (List.foldl _ c₂.io _).owned
        rw [(Io.closeSockets_spec c₂.io.socketMap.entries c₂.io).2.1]
        exact hid
      have hlookup : c'.io.socketMap.lookup (c'.sockets id).fd = some id := hagree.owned id hmem
      rw [heq] at hlookup
      cases hlookup

/-- A request is cancelled, and curl closes its connection. The next one gets the
same descriptor, and is done; then curl closes that connection. -/
def cancelClosesConnection : List (Event Nat) :=
  [.request (getRoot 0) true [{ calls := [.timer 0] },
      { calls := [.openSocket .ipConnection .inet false false 7, .socket 7 .pollOut true] }],
    .cancel [0] [{ calls := [.socket 7 .pollRemove true, .closeSocket 0] }],
    .request (getRoot 1) true [{ calls := [.timer 0] },
      { calls := [.openSocket .ipConnection .inet false false 7, .socket 7 .pollOut true] }],
    .ready 1 .write,
    .watch 1 ⟨.write, .fired⟩ [{ calls := [.socket 7 .pollRemove true, .done 1 .ok 200] },
      { calls := [.closeSocket 1] }],
    .cancel [] []]

/-- Curl closes its connection while the request is cancelled, and the descriptor is used
again. -/
theorem sockets_agree_cancelClosesConnection :
    ∃ c, run (system Nat) cancelsWithoutSockets (Client.create true 0)
      cancelClosesConnection = some c ∧ Agreement c := by
  have hsome : (run (system Nat) cancelsWithoutSockets (Client.create true 0)
      cancelClosesConnection).isSome = true := by decide
  obtain ⟨c, hrun⟩ := Option.isSome_iff_exists.mp hsome
  exact ⟨c, hrun, (sockets_agree
    ⟨_, ⟨true, 0, rfl⟩, Path.of_run cancelClosesConnection hrun⟩).1⟩

/-- A request is done, and curl keeps its connection. `do_cancel()` closes its
socket. The next request gets the same descriptor; then curl closes the old
connection, and with it the socket of the running request. -/
theorem not_agreement_cancelAfterDone :
    ∃ c, Reachable (system Nat) anyStep c ∧ ¬ Agreement c := by
  have hclosed : (run (system Nat) anyStep (Client.create true 0)
      [.request (getRoot 0) true [{ calls := [.timer 0] },
          { calls := [.openSocket .ipConnection .inet false false 7, .socket 7 .pollOut true,
            .socket 7 .pollRemove true, .done 0 .ok 200] }, {}],
        .cancel [] [],
        .request (getRoot 1) true [{ calls := [.timer 0] },
          { calls := [.openSocket .ipConnection .inet false false 7, .socket 7 .pollOut true,
            .closeSocket 0] }]]).map (·.closed) = some [⟨0, true⟩, ⟨1, true⟩] := by decide
  obtain ⟨c, hrun, hc⟩ := Option.map_eq_some_iff.mp hclosed
  refine ⟨c, ⟨_, ⟨true, 0, rfl⟩, Path.of_run _ hrun⟩, fun hagree => ?_⟩
  have hfalse := hagree.closed ⟨1, true⟩ (by simp [hc])
  cases hfalse

end CppComponents.HttpsMultiplexClient
