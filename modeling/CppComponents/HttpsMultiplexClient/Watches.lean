import CppComponents.HttpsMultiplexClient.Sockets

/-!
# One watch for a direction

`handle_set_socket()` cancels the waits of a socket before it starts new ones.
`event_callback()` does not: when curl keeps its interest in the descriptor, it
starts a wait for each direction of it, although only one wait has completed. A
socket that curl watches for reading and writing so gets a second wait for the
other direction with every event, and so does one that curl has set anew while
it handled the event.

`Watched` is what `event_callback()` meets of its socket when curl is done. It
can be told from the state before and from curl's calls, and `noDuplicates` says
that it has no wait in a direction that will be watched again.
-/

namespace CppComponents.HttpsMultiplexClient

open CppComponents.Transition

variable {H : Type}

/-- An open socket: what `socket_actions` has for its descriptor, and in which
directions it is waited for. -/
structure Watched where
  action : Option CurlPoll
  isArmed : Direction → Bool

/-- Watching the socket again would double a wait. -/
def Watched.doubles (w : Watched) : Bool :=
  [Direction.read, .write].any fun direction =>
    w.action.any (·.includes direction) && w.isArmed direction

/-- The test as a statement. -/
theorem Watched.doubles_iff (w : Watched) : w.doubles = true ↔
    ∃ direction, w.action.any (·.includes direction) = true ∧ w.isArmed direction = true := by
  simp only [doubles, List.any_cons, List.any_nil, Bool.or_false, Bool.or_eq_true,
    Bool.and_eq_true]
  refine ⟨?_, ?_⟩
  · rintro (h | h)
    · exact ⟨.read, h⟩
    · exact ⟨.write, h⟩
  · rintro ⟨direction, h⟩
    cases direction with
    | read => exact .inl h
    | write => exact .inr h

/-- The sockets curl owns under a descriptor. Closing one of them closes the socket
in the map. -/
def Io.rivals (s : Io) (fd : Nat) : List Nat := s.owned.filter fun id => (s.sockets id).fd = fd

/-- An open socket in the client; `none` if it is closed. -/
def Io.watched (s : Io) (id : Nat) : Option Watched :=
  if (s.sockets id).isOpen then
    some ⟨s.socketActions.lookup (s.sockets id).fd, (s.sockets id).isArmed⟩
  else none

/-- What a call of curl does to an open socket with descriptor `fd`. -/
def watchedStep (fd : Nat) (rivals : List Nat) : Option Watched → CurlCall → Option Watched
  | none, _ => none
  | some w, .socket fd' what _ =>
    if fd' ≠ fd then some w
    else if what = .pollRemove then some { w with action := none }
    else some ⟨some what, what.includes⟩
  | some w, .closeSocket id => if id ∈ rivals then none else some w
  | some w, _ => some w

/-- At most one wait in a direction. -/
def Io.Single (s : Io) : Prop := ∀ id direction, (s.sockets id).armed direction ≤ 1

namespace Io

/-! ## The calls of curl -/

/-- Only the waits of that socket count. -/
theorem Single.updateSocket {s : Io} (h : s.Single) (id : Nat) {f : TcpSocket → TcpSocket}
    (hf : ∀ direction, (f (s.sockets id)).armed direction ≤ 1) : (s.updateSocket id f).Single := by
  intro other direction
  by_cases hother : other = id
  · subst hother
    rw [updateSocket_self]
    exact hf direction
  · rw [updateSocket_of_ne s f hother]
    exact h other direction

theorem Single.closeSocket {s : Io} (h : s.Single) (id : Nat) : (s.closeSocket id).Single := by
  refine Single.updateSocket h id fun direction => ?_
  rw [TcpSocket.armed_close]
  omega

/-- `set_socket()` cancels the waits before it arms new ones. -/
theorem Single.setSocket {s : Io} (h : s.Single) (fd : Nat) (action : CurlPoll) :
    (s.setSocket fd action).Single := by
  unfold Io.setSocket
  simp only
  split
  · exact h
  · rename_i id _
    refine Single.updateSocket (s := { s with
      interest := Function.update s.interest fd action
      socketActions := s.socketActions.insert fd action }) h id fun direction => ?_
    rw [TcpSocket.armed_armWatches, TcpSocket.armed_cancel]
    split <;> omega

/-- A socket that enters the map has no wait. -/
theorem Single.storeSocket {s : Io} (h : s.Single) (fd : Nat) : (s.storeSocket fd).Single := by
  have hnew : Single { s with
      sockets := Function.update s.sockets s.opened ⟨fd, true, []⟩
      opened := s.opened + 1 } :=
    Single.updateSocket (f := fun _ => ⟨fd, true, []⟩) h s.opened fun direction => Nat.zero_le _
  unfold Io.storeSocket
  simp only
  split
  · exact hnew
  · exact hnew.closeSocket s.opened

/-- Curl's calls never double a wait. -/
theorem Single.call {s : Io} (h : s.Single) (call : CurlCall) : (s.call call).Single := by
  cases call with
  | socket fd what assignOk =>
    simp only [Io.call]
    split
    · exact h
    · exact h.setSocket fd what
  | timer timeoutMs =>
    simp only [Io.call, Io.setTimer]
    split <;> exact h
  | openSocket purpose family openError nonBlockingError choice =>
    simp only [Io.call]
    split
    · exact h.storeSocket _
    · exact h
  | closeSocket id =>
    simp only [Io.call]
    split
    · unfold Io.releaseSocket
      simp only
      split
      · exact h
      · exact Single.closeSocket (s := { s with
          owned := s.owned.erase id
          socketActions := s.socketActions.erase (s.sockets id).fd }) h _
    · exact h
  | write | header | done => exact h

theorem Single.closeAll {s : Io} (h : s.Single) : s.closeAll.Single := by
  have hfold : (s.socketMap.entries.foldl (fun s entry => s.closeSocket entry.2) s).Single :=
    List.foldlRecOn (motive := Single) _ _ h fun _ h entry _ => h.closeSocket entry.2
  exact hfold

/-! ## One socket, while curl runs -/

theorem watched_of_closed {s : Io} {id : Nat} (h : (s.sockets id).isOpen = false) :
    s.watched id = none := by
  unfold Io.watched
  rw [h]
  rfl

theorem watched_of_isOpen {s : Io} {id : Nat} (h : (s.sockets id).isOpen = true) :
    s.watched id = some ⟨s.socketActions.lookup (s.sockets id).fd, (s.sockets id).isArmed⟩ := by
  unfold Io.watched
  rw [h]
  rfl

/-- Only open sockets are watched. -/
theorem isOpen_of_watched {s : Io} {id : Nat} {w : Watched} (h : s.watched id = some w) :
    (s.sockets id).isOpen = true := by
  cases hopen : (s.sockets id).isOpen with
  | true => rfl
  | false =>
    rw [watched_of_closed hopen] at h
    cases h

/-- The waits go on when curl wants nothing of the socket any more. -/
theorem watched_removeSocket (s : Io) (id fd : Nat) :
    (s.removeSocket fd).watched id =
      if (s.sockets id).fd = fd then (s.watched id).map fun w => { w with action := none }
      else s.watched id := by
  cases hopen : (s.sockets id).isOpen with
  | false =>
    rw [watched_of_closed (s := s.removeSocket fd) hopen, watched_of_closed hopen]
    simp
  | true =>
    rw [watched_of_isOpen (s := s.removeSocket fd) hopen, watched_of_isOpen hopen]
    unfold Io.removeSocket
    simp only
    split
    · rename_i hfd
      rw [hfd, AList.lookup_erase]
      rfl
    · rename_i hfd
      rw [AList.lookup_erase_ne hfd]

/-- Curl's new interest replaces the waits of the socket in the map. -/
theorem Tracked.watched_setSocket {s : Io} (h : Tracked s) (id fd : Nat) (action : CurlPoll) :
    (s.setSocket fd action).watched id =
      if (s.sockets id).fd = fd then (s.watched id).map fun _ => ⟨some action, action.includes⟩
      else s.watched id := by
  have hsame := SameSockets.setSocket s fd action
  cases hopen : (s.sockets id).isOpen with
  | false =>
    rw [watched_of_closed ((hsame.isOpen id).trans hopen), watched_of_closed hopen]
    simp
  | true =>
    rw [watched_of_isOpen ((hsame.isOpen id).trans hopen), watched_of_isOpen hopen, hsame.fd id]
    have hid := (h.isOpen id hopen).1
    rcases hlookup : s.socketMap.lookup fd with _ | other
    · have hfd : (s.sockets id).fd ≠ fd := fun heq => by
        rw [heq, hlookup] at hid
        cases hid
      rw [if_neg hfd, setSocket_of_none hlookup]
    · rw [setSocket_of_some hlookup]
      simp only
      by_cases hfd : (s.sockets id).fd = fd
      · obtain rfl : id = other := by
          rw [hfd, hlookup] at hid
          exact (Option.some.inj hid).symm
        rw [if_pos hfd, hfd, AList.lookup_insert, Function.update_self,
          TcpSocket.isArmed_set hopen]
        rfl
      · have hne : id ≠ other := fun heq => hfd (by rw [heq, (h.mapped _ _ hlookup).2])
        rw [if_neg hfd, AList.lookup_insert_ne hfd, Function.update_of_ne hne]

/-- Whatever socket the client has for the descriptor is closed. -/
theorem Tracked.watched_releaseSocket {s : Io} (h : Tracked s) (id other : Nat) :
    (s.releaseSocket other).watched id =
      if (s.sockets other).fd = (s.sockets id).fd then none else s.watched id := by
  cases hopen : (s.sockets id).isOpen with
  | false =>
    -- a closed socket stays closed
    rw [watched_of_closed hopen, ite_self]
    refine watched_of_closed ?_
    rcases hlookup : s.socketMap.lookup (s.sockets other).fd with _ | mapped
    · rw [releaseSocket_of_none hlookup]
      exact hopen
    · have hne : id ≠ mapped := fun heq => by
        rw [heq, (h.mapped _ _ hlookup).1] at hopen
        cases hopen
      rw [releaseSocket_of_some hlookup]
      simpa only [Function.update_of_ne hne] using hopen
  | true =>
    have hid := (h.isOpen id hopen).1
    rcases hlookup : s.socketMap.lookup (s.sockets other).fd with _ | mapped
    · have hfd : (s.sockets id).fd ≠ (s.sockets other).fd := fun heq => by
        rw [heq, hlookup] at hid
        cases hid
      rw [if_neg hfd.symm, releaseSocket_of_none hlookup, watched_of_isOpen hopen,
        watched_of_isOpen (by exact hopen)]
      simp only
      rw [AList.lookup_erase_ne hfd]
    -- open sockets with one descriptor are one socket
    · rw [releaseSocket_of_some hlookup]
      by_cases hfd : (s.sockets id).fd = (s.sockets other).fd
      · obtain rfl : id = mapped := by
          rw [hfd, hlookup] at hid
          exact (Option.some.inj hid).symm
        rw [if_pos hfd.symm]
        exact watched_of_closed (by simp)
      · have hne : id ≠ mapped := fun heq => hfd (by rw [heq, (h.mapped _ _ hlookup).2])
        rw [if_neg (Ne.symm hfd), watched_of_isOpen hopen]
        rw [watched_of_isOpen (by simpa only [Function.update_of_ne hne] using hopen)]
        simp only
        rw [Function.update_of_ne hne, AList.lookup_erase_ne hfd]

/-- Socket `id`, while curl runs. -/
structure Watching (s : Io) (id fd : Nat) (rivals : List Nat) (w : Option Watched) : Prop where
  tracked : Tracked s
  lt : id < s.opened
  descriptor : (s.sockets id).fd = fd
  rivals : (s.sockets id).isOpen = true →
    ∀ other, other ∈ rivals ↔ other ∈ s.owned ∧ (s.sockets other).fd = fd
  watched : s.watched id = w

/-- An open socket, before curl runs. -/
theorem Watching.of_isOpen {s : Io} (h : Tracked s) {id : Nat}
    (hopen : (s.sockets id).isOpen = true) :
    s.Watching id (s.sockets id).fd (s.rivals (s.sockets id).fd) (s.watched id) where
  tracked := h
  lt := h.owned id (h.isOpen id hopen).2
  descriptor := rfl
  rivals := fun _ other => by simp [Io.rivals]
  watched := rfl

/-- The waits may change where the descriptors stay. -/
theorem Watching.same {s s' : Io} {id fd : Nat} {rivals : List Nat} {w w' : Option Watched}
    (h : s.Watching id fd rivals w) (hs : SameSockets s s') (hw : s'.watched id = w') :
    s'.Watching id fd rivals w' where
  tracked := h.tracked.same hs
  lt := by
    rw [hs.opened]
    exact h.lt
  descriptor := (hs.fd id).trans h.descriptor
  rivals := fun hopen other => by
    rw [hs.isOpen] at hopen
    rw [hs.owned, hs.fd]
    exact h.rivals hopen other
  watched := hw

/-- A new socket has a descriptor of its own. -/
theorem Watching.openSocket {s : Io} {id fd : Nat} {rivals : List Nat} {w : Option Watched}
    (h : s.Watching id fd rivals w) (choice : Nat) :
    (s.openSocket choice).Watching id fd rivals w := by
  have htracked := h.tracked.openSocket choice
  have hne : id ≠ s.opened := Nat.ne_of_lt h.lt
  have hwatched := h.watched
  rw [h.tracked.openSocket_eq choice] at htracked ⊢
  refine ⟨htracked, Nat.lt_succ_of_lt h.lt, ?_, fun hopen other => ?_, ?_⟩
  · simpa only [Function.update_of_ne hne] using h.descriptor
  · simp only [Function.update_of_ne hne] at hopen
    have hfree : s.freeDescriptor choice ≠ fd := fun heq => by
      have hlookup := (h.tracked.isOpen id hopen).1
      rw [h.descriptor, ← heq, h.tracked.lookup_freeDescriptor] at hlookup
      cases hlookup
    rw [h.rivals hopen other]
    by_cases hother : other = s.opened
    · subst hother
      simp [hfree, mt (h.tracked.owned s.opened) (Nat.lt_irrefl _)]
    · simp [hother]
  · rw [← hwatched]
    unfold Io.watched
    simp only
    rw [Function.update_of_ne hne]

/-- A socket is closed by its own release or by that of a rival. -/
theorem Watching.releaseSocket {s : Io} {id fd : Nat} {rivals : List Nat} {w : Option Watched}
    (h : s.Watching id fd rivals w) (other : Nat) :
    (s.releaseSocket other).Watching id fd rivals
      (if (s.sockets other).fd = fd then none else w) := by
  have hwatched := h.tracked.watched_releaseSocket id other
  rw [h.descriptor, h.watched] at hwatched
  refine ⟨h.tracked.releaseSocket other, ?_, ?_, fun hopen third => ?_, hwatched⟩
  · rw [(s.owned_releaseSocket other).2]
    exact h.lt
  · rw [fd_releaseSocket]
    exact h.descriptor
  · -- socket `id` is still open, so `other` has another descriptor
    have hfd : (s.sockets other).fd ≠ fd := fun heq => by
      rw [if_pos heq, watched_of_isOpen hopen] at hwatched
      cases hwatched
    have hopen' : (s.sockets id).isOpen = true := by
      rw [if_neg hfd, watched_of_isOpen hopen, ← h.watched] at hwatched
      exact isOpen_of_watched hwatched.symm
    rw [h.rivals hopen' third, (s.owned_releaseSocket other).1, fd_releaseSocket]
    refine and_congr_left fun hthird => ?_
    have hne : third ≠ other := fun heq => hfd (heq ▸ hthird)
    exact (List.mem_erase_of_ne hne).symm

/-- What a call of curl does to the socket. -/
theorem Watching.call {s : Io} {id fd : Nat} {rivals : List Nat} {w : Option Watched}
    (h : s.Watching id fd rivals w) (call : CurlCall) :
    (s.call call).Watching id fd rivals (watchedStep fd rivals w call) := by
  cases call with
  | socket fd' what assignOk =>
    simp only [Io.call]
    split
    · rename_i hwhat
      subst hwhat
      refine h.same (.removeSocket s fd') ?_
      rw [watched_removeSocket, h.watched, h.descriptor]
      cases w with
      | none => simp [watchedStep]
      | some w =>
        by_cases hfd : fd = fd'
        · simp [watchedStep, hfd]
        · simp [watchedStep, hfd, Ne.symm hfd]
    · rename_i hwhat
      refine h.same (.setSocket s fd' what) ?_
      rw [h.tracked.watched_setSocket, h.watched, h.descriptor]
      cases w with
      | none => simp [watchedStep]
      | some w =>
        by_cases hfd : fd = fd'
        · simp [watchedStep, hfd, hwhat]
        · simp [watchedStep, hfd, Ne.symm hfd]
  | timer timeoutMs =>
    have hsame : (s.setTimer timeoutMs).watched id = s.watched id := by
      unfold Io.setTimer
      split <;> rfl
    refine h.same (.setTimer s timeoutMs) (hsame.trans (h.watched.trans ?_))
    cases w <;> rfl
  | openSocket purpose family openError nonBlockingError choice =>
    have hstep : watchedStep fd rivals w
        (.openSocket purpose family openError nonBlockingError choice) = w := by
      cases w <;> rfl
    rw [hstep, Io.call]
    split
    · exact h.openSocket choice
    · exact h
  | closeSocket other =>
    -- whether the closed socket shares the descriptor decides, and the rivals say so
    have hrival : ∀ w', w = some w' →
        (other ∈ rivals ↔ other ∈ s.owned ∧ (s.sockets other).fd = fd) := by
      rintro w' rfl
      exact h.rivals (isOpen_of_watched h.watched) other
    simp only [Io.call]
    split
    · rename_i hother
      have hstep : watchedStep fd rivals w (.closeSocket other) =
          if (s.sockets other).fd = fd then none else w := by
        cases w with
        | none => simp [watchedStep]
        | some w' => simp [watchedStep, hrival w' rfl, hother]
      rw [hstep]
      exact h.releaseSocket other
    · rename_i hother
      have hstep : watchedStep fd rivals w (.closeSocket other) = w := by
        cases w with
        | none => rfl
        | some w' => simp [watchedStep, hrival w' rfl, hother]
      rw [hstep]
      exact h
  | write | header | done => cases w <;> exact h

/-- What curl does to the socket is the fold of its calls, by induction on them. -/
theorem Watching.calls {s : Io} {id fd : Nat} {rivals : List Nat} {w : Option Watched}
    (h : s.Watching id fd rivals w) (calls : List CurlCall) :
    (calls.foldl Io.call s).Watching id fd rivals (calls.foldl (watchedStep fd rivals) w) := by
  induction calls generalizing s w with
  | nil => exact h
  | cons call calls ih => exact ih (h.call call)

end Io

/-! ## The guard -/

/-- No transfer is left after curl has done `run`. -/
def Client.noTransferLeft (c : Client H) (run : Option CurlRun) : Bool :=
  c.curl.handles.all fun n =>
    n ∈ c.curl.finished || run.any (·.calls.any (·.isDone n))

/-- What `event_callback()` will meet of socket `id` when curl has done `script`. -/
def Client.watchedAfter (c : Client H) (id : Nat) (script : List CurlRun) : Option Watched :=
  (script.flatMap CurlRun.calls).foldl
    (watchedStep (c.sockets id).fd (c.io.rivals (c.sockets id).fd)) (c.io.watched id)

/-- When a wait has completed on an open socket, and `curl_multi_socket_action()`
succeeds and leaves a transfer running, then the socket is closed by the time
curl is done, or has no wait in a direction that it is to be watched in. -/
def noDuplicates : Guard (Client H) (Event H)
  | c, .watch id ⟨_, .fired⟩ script =>
    (c.sockets id).isOpen = false ∨ script.head?.any (!·.ok) = true ∨
      c.noTransferLeft script.head? = true ∨ (c.watchedAfter id script).any (·.doubles) = false
  | _, _ => True

instance (c : Client H) (e : Event H) : Decidable (noDuplicates c e) :=
  match e with
  | .watch _ ⟨_, .fired⟩ _ => inferInstanceAs (Decidable (_ ∨ _ ∨ _ ∨ _))
  | .watch _ ⟨_, .armed⟩ _ | .watch _ ⟨_, .aborted⟩ _ | .request _ _ _ | .cancel _ _
  | .setCaCertificate _ | .timer _ _ | .ready _ _ | .tick _ | .expire _ => isTrue trivial

/-! ## `event_callback()` -/

namespace Client

theorem script_armSocketWatches (c : Client H) (id : Nat) (action : CurlPoll) :
    (c.armSocketWatches id action).script = c.script := by
  rw [armSocketWatches_eq]
  rfl

/-- After `curl_multi_socket_action()`, `still_running` is 0 if curl has ended the
last transfers. -/
theorem stillRunning_socketAction_eq_zero (c : Client H) :
    c.socketAction.stillRunning = 0 ↔ c.noTransferLeft c.script.head? = true := by
  rw [stillRunning_socketAction, running_curlMulti_eq_zero]
  unfold noTransferLeft
  cases c.script.head? <;> simp

/-- When `event_callback()` arms the watches, the socket is as its calls have left it. -/
theorem Follows.watching {c c' : Client H} (h : Follows c c') (hscript : c'.script = [])
    (ht : Io.Tracked c.io) {id : Nat} (hopen : (c.sockets id).isOpen = true) :
    c'.io.Watching id (c.sockets id).fd (c.io.rivals (c.sockets id).fd)
      (c.watchedAfter id c.script) := by
  obtain ⟨runs, hruns, hio⟩ := h
  have hwatching := Io.Watching.of_isOpen ht hopen
  rw [hio, watchedAfter, hruns, hscript, List.append_nil]
  exact hwatching.calls _

/-- Watching an open socket again doubles a wait, or does not. -/
theorem single_rearm {s : Io} {id : Nat} {action : CurlPoll} (h : s.Single)
    (haction : s.socketActions.lookup (s.sockets id).fd = some action) :
    (s.updateSocket id (·.armWatches action)).Single ↔
      (s.watched id).any (·.doubles) = false := by
  cases hopen : (s.sockets id).isOpen with
  | false =>
    rw [Io.watched_of_closed hopen]
    refine iff_of_true (h.updateSocket id fun direction => ?_) rfl
    rw [TcpSocket.armed_armWatches, if_neg (by simp [hopen])]
    exact h id direction
  | true =>
    rw [Io.watched_of_isOpen hopen, haction, Option.any_some, Bool.eq_false_iff, ne_eq,
      Watched.doubles_iff]
    constructor
    · rintro hsingle ⟨direction, hincludes, harmed⟩
      have hdouble := hsingle id direction
      rw [Io.updateSocket_self, TcpSocket.armed_armWatches, if_pos ⟨hopen, hincludes⟩] at hdouble
      have harmed : 0 < (s.sockets id).armed direction := of_decide_eq_true harmed
      omega
    · intro hnone
      refine h.updateSocket id fun direction => ?_
      rw [TcpSocket.armed_armWatches]
      split
      · rename_i hincludes
        have harmed : ¬ 0 < (s.sockets id).armed direction := fun harmed =>
          hnone ⟨direction, hincludes.2, decide_eq_true harmed⟩
        omega
      · exact h id direction

/-- Exact for one step: a wait is doubled where the socket is open, curl has succeeded, a
transfer is left and the socket is waited for already. -/
theorem eventCallback_single {c : Client H} {id : Nat} (hs : Serving c.requests)
    (ht : Io.Tracked c.io) (h : c.io.Single) (hscript : (c.eventCallback id).script = []) :
    (c.eventCallback id).io.Single ↔ (c.sockets id).isOpen = false ∨
      c.script.head?.any (!·.ok) = true ∨ c.noTransferLeft c.script.head? = true ∨
        (c.watchedAfter id c.script).any (·.doubles) = false := by
  have haction : c.socketAction.io.Single :=
    (Follows.socketAction c).invariant (fun _ call h => h.call call) h
  have hspec := c.eventCallback_spec id
  generalize c.eventCallback id = c' at hspec hscript
  cases hspec with
  | ignored hclosed =>
    refine iff_of_true h ?_
    rcases hclosed with hmulti | hclosed
    · have hnone : c.curl.handles = [] := hs.multi hmulti
      exact .inr (.inr (.inl (by simp [noTransferLeft, hnone])))
    · exact .inl hclosed
  | failed hopen hok =>
    exact iff_of_true haction (.inr (.inl (c.curlMultiSocketAction_failed.mp hok)))
  | idle hopen hok hrunning =>
    exact iff_of_true haction
      (.inr (.inr (.inl (c.stillRunning_socketAction_eq_zero.mp hrunning))))
  | unwatched hopen hok hrunning hlookup =>
    -- nothing is armed in the callback, so nothing can be doubled by it
    refine iff_of_true haction (.inr (.inr (.inr ?_)))
    have hwatching := (Follows.socketAction c).watching hscript ht hopen
    rw [← hwatching.watched]
    have hlookup : c.socketAction.io.socketActions.lookup (c.socketAction.io.sockets id).fd =
        none := by
      rw [hwatching.descriptor]
      exact hlookup
    unfold Io.watched
    rw [hlookup]
    split
    · rfl
    · rfl
  | rearmed hopen hok hrunning hlookup =>
    rw [script_armSocketWatches] at hscript
    have hwatching := (Follows.socketAction c).watching hscript ht hopen
    -- the wait that is armed adds to what curl's calls left
    have hrearm := single_rearm haction (by
      rw [hwatching.descriptor]
      exact hlookup)
    rw [armSocketWatches_eq, ← hwatching.watched]
    refine hrearm.trans ⟨fun hnone => .inr (.inr (.inr hnone)), ?_⟩
    rintro (hclosed | hfailed | hleft | hnone)
    · rw [hopen] at hclosed
      cases hclosed
    · rw [c.curlMultiSocketAction_failed.mpr hfailed] at hok
      cases hok
    · exact absurd (c.stillRunning_socketAction_eq_zero.mpr hleft) hrunning
    · exact hnone

end Client

/-! ## The whole system -/

/-- The completed wait is taken off the socket, and leaves the armed ones. -/
theorem Io.watched_deliver {s : Io} {id : Nat} {wait : SocketWait} {socket : TcpSocket}
    (hdeliver : (s.sockets id).deliver wait = some socket) :
    (s.updateSocket id fun _ => socket).watched id = s.watched id := by
  have harmed : socket.isArmed = (s.sockets id).isArmed := by
    funext direction
    rw [TcpSocket.isArmed, TcpSocket.armed_deliver hdeliver]
    rfl
  obtain ⟨-, -, rfl⟩ := TcpSocket.deliver_eq_some hdeliver
  unfold Io.watched
  rw [Io.updateSocket_self, harmed]
  rfl

theorem Io.Single.deliver {s : Io} (h : s.Single) {id : Nat} {wait : SocketWait}
    {socket : TcpSocket} (hdeliver : (s.sockets id).deliver wait = some socket) :
    (s.updateSocket id fun _ => socket).Single :=
  h.updateSocket id fun direction => by
    rw [TcpSocket.armed_deliver hdeliver]
    exact h id direction

/-- A step doubles a wait if and only if it does not meet the guard. -/
theorem single_step {c c' : Client H} {e : Event H} (hs : Serving c.requests)
    (ht : Io.Tracked c.io) (h : c.io.Single) (he : step c e = some c') :
    c'.io.Single ↔ noDuplicates c e := by
  have hcalls : ∀ s call, Io.Single s → (s.call call).Single := fun _ call h => h.call call
  cases step_spec he with
  | request args easyInit script hscript =>
    exact iff_of_true ((Client.Follows.doRequest { c with script := script } args
      easyInit).invariant hcalls h) trivial
  | @cancel order script horder hscript =>
    refine iff_of_true ?_ trivial
    rw [(Client.doCancel_io { c with script := script } order).1]
    exact ((Client.Follows.cancelConnections { c with script := script } order).invariant
      (I := Io.Single) hcalls h).closeAll
  | @watch id direction socket script hdeliver hscript =>
    have hsame : Io.SameSockets c.io (c.io.updateSocket id fun _ => socket) := by
      obtain ⟨-, -, rfl⟩ := TcpSocket.deliver_eq_some hdeliver
      exact .setWaits c.io id _
    have hstate := Client.eventCallback_single (c := { c.updateSocket id fun _ => socket with
      script := script }) hs (ht.same hsame) (h.deliver hdeliver) hscript
    refine hstate.trans ?_
    -- taking the completed wait off changes none of what the guard looks at
    have hrivals : (c.io.updateSocket id fun _ => socket).rivals (c.sockets id).fd =
        c.io.rivals (c.sockets id).fd := by
      unfold Io.rivals
      simp only [hsame.fd, hsame.owned]
    have hwatched : (c.io.updateSocket id fun _ => socket).watched id = c.io.watched id :=
      Io.watched_deliver hdeliver
    have hafter : Client.watchedAfter { c.updateSocket id fun _ => socket with script := script }
        id script = c.watchedAfter id script := by
      unfold Client.watchedAfter
      rw [show (Client.sockets { c.updateSocket id fun _ => socket with script := script } id).fd =
        (c.sockets id).fd from hsame.fd id]
      exact congrArg₂ (fun rivals w => (script.flatMap CurlRun.calls).foldl
        (watchedStep (c.sockets id).fd rivals) w) hrivals hwatched
    rw [hafter]
    exact Iff.of_eq (congrArg (fun isOpen => isOpen = false ∨ _) (hsame.isOpen id))
  | @watchAborted id wait socket hwait hdeliver =>
    have hsingle : (c.io.updateSocket id fun _ => socket).Single := h.deliver hdeliver
    refine iff_of_true hsingle ?_
    obtain ⟨direction, status⟩ := wait
    cases status with
    | fired => exact absurd rfl hwait
    | armed | aborted => trivial
  | timer script hwait hdeliver =>
    exact iff_of_true ((Client.Follows.asioTimerCallback _).invariant (I := Io.Single) hcalls h)
      trivial
  | setCaCertificate | timerAborted | tick | expire => exact iff_of_true h trivial
  | @ready id direction socket hfire =>
    have hsingle : (c.io.updateSocket id fun _ => socket).Single :=
      h.updateSocket id fun other => (TcpSocket.armed_fire_le hfire other).trans (h id other)
    exact iff_of_true hsingle trivial

/-- No wait is doubled in a run whose steps meet the condition. -/
theorem single_of_reachable {c : Client H} (hr : Reachable (system H) noDuplicates c) :
    c.io.Single := by
  suffices h : Serving c.requests ∧ Io.Tracked c.io ∧ c.io.Single from h.2.2
  refine hr.invariant (I := fun c => Serving c.requests ∧ Io.Tracked c.io ∧ c.io.Single) ?_
    fun c e c' h hok he => ?_
  · rintro c ⟨multi, now, rfl⟩
    exact ⟨.init multi now, Io.tracked_create multi now, fun _ _ => Nat.zero_le 1⟩
  · obtain ⟨hs, ht, hsingle⟩ := h
    exact ⟨hs.step he, ht.step he, (single_step hs ht hsingle he).mpr hok⟩

/-- **One watch for a direction.** In every run in which `event_callback()` never meets
a socket that it would watch twice, no socket has two armed waits in a direction;
and a step in which it meets one leaves a socket that has. -/
theorem no_duplicate_watches {c : Client H} (hr : Reachable (system H) noDuplicates c) :
    (∀ id direction, (c.sockets id).armed direction ≤ 1) ∧
    ∀ e c', step c e = some c' →
      ((∀ id direction, (c'.sockets id).armed direction ≤ 1) ↔ noDuplicates c e) :=
  ⟨single_of_reachable hr, fun _ _ he =>
    single_step (serving_of_reachable (hr.mono fun _ _ _ => trivial)) (tracked_of_reachable hr)
      (single_of_reachable hr) he⟩

/-- A connection is made, and curl writes twice; then it waits for the response,
which comes in two parts. -/
def responseInTwoParts : List (Event Nat) :=
  [.request (getRoot 0) true [{ calls := [.timer 0] },
      { calls := [.openSocket .ipConnection .inet false false 7, .socket 7 .pollOut true] }],
    .ready 0 .write,
    .watch 0 ⟨.write, .fired⟩ [{}],
    .ready 0 .write,
    .watch 0 ⟨.write, .fired⟩ [{ calls := [.socket 7 .pollRemove true] }],
    .expire ⟨0, .armed, 0⟩,
    .timer ⟨0, .fired, 0⟩ [{ calls := [.socket 7 .pollIn true] }],
    .ready 0 .read,
    .watch 0 ⟨.read, .fired⟩ [{ calls := [.header 0 "HTTP/2 200".toList] }],
    .ready 0 .read,
    .watch 0 ⟨.read, .fired⟩ [{ calls := [.socket 7 .pollRemove true, .done 0 .ok 200] }, {}]]

/-- A response in two parts: the read is waited for again each time, once. -/
theorem no_duplicate_watches_responseInTwoParts :
    ∃ c, run (system Nat) noDuplicates (Client.create true 0) responseInTwoParts = some c ∧
      ∀ id direction, (c.sockets id).armed direction ≤ 1 := by
  have hsome : (run (system Nat) noDuplicates (Client.create true 0)
      responseInTwoParts).isSome = true := by decide
  obtain ⟨c, hrun⟩ := Option.isSome_iff_exists.mp hsome
  exact ⟨c, hrun, (no_duplicate_watches
    ⟨_, ⟨true, 0, rfl⟩, Path.of_run responseInTwoParts hrun⟩).1⟩

/-- Curl wants to read and to write, and twice there is something to read. The socket
then has three waits for writing. -/
theorem not_single_readTwice :
    ∃ c, Reachable (system Nat) anyStep c ∧
      ¬ ∀ id direction, (c.sockets id).armed direction ≤ 1 := by
  have harmed : (run (system Nat) anyStep (Client.create true 0)
      [.request (getRoot 0) true [{ calls := [.timer 0] },
          { calls := [.openSocket .ipConnection .inet false false 7,
            .socket 7 .pollInOut true] }],
        .ready 0 .read,
        .watch 0 ⟨.read, .fired⟩ [{}],
        .ready 0 .read,
        .watch 0 ⟨.read, .fired⟩ [{}]]).map (fun c => (c.sockets 0).armed .write) =
      some 3 := by decide
  obtain ⟨c, hrun, hc⟩ := Option.map_eq_some_iff.mp harmed
  refine ⟨c, ⟨_, ⟨true, 0, rfl⟩, Path.of_run _ hrun⟩, fun hsingle => ?_⟩
  have hle := hsingle 0 .write
  rw [hc] at hle
  omega

end CppComponents.HttpsMultiplexClient
