import RobotMulticam.Lib.Run
import RobotMulticam.Relay.Manager

/-!
# Metadata events for a subscriber

`process_step` appends an event to the history of its stream and then sends
it to the broadcast channel. `metadata_sse` subscribes to the channel, then
reads the history, and answers with the history followed by those events of
the channel that are newer than the last one in it.

A `RelayServer` is the manager task together with one request. One action is
one section of one of the two, so a list of actions is an interleaving of
appending, sending, subscribing, reading and following in any order. An event
can be in the history before it is sent, and in both the history and the
channel when the request reads; the one comparison with the cursor has to
sort this out.

What carries the proof is a balance: what the response has, what it is about
to take from history and channel, and an event that is appended but not yet
sent, are together the history that was read and all events since.
-/

namespace RobotMulticam.Relay

open RobotMulticam.Lib
open RobotMulticam.Protocol
open Std (ExtTreeMap)

/-- `(stream_epoch, access_unit_ordinal)`. -/
structure Cursor where
  streamEpoch : UInt32
  accessUnitOrdinal : UInt64
  deriving DecidableEq

/-- The order of tuples. -/
def Cursor.Before (first second : Cursor) : Prop :=
  first.streamEpoch < second.streamEpoch ∨
    first.streamEpoch = second.streamEpoch ∧ first.accessUnitOrdinal < second.accessUnitOrdinal

instance (first second : Cursor) : Decidable (first.Before second) :=
  inferInstanceAs (Decidable (_ ∨ _))

theorem Cursor.not_before_self (cursor : Cursor) : ¬ cursor.Before cursor := by
  rintro (h | ⟨_, h⟩)
  · exact UInt32.lt_irrefl _ h
  · exact UInt64.lt_irrefl _ h

theorem Cursor.Before.asymm {first second : Cursor} (h : first.Before second) :
    ¬ second.Before first := by
  simp only [Cursor.Before, UInt32.lt_iff_toNat_lt, UInt64.lt_iff_toNat_lt,
    ← UInt32.toNat_inj] at h ⊢
  omega

namespace FrameMetadataEvent

def cursor (event : FrameMetadataEvent) : Cursor := ⟨event.streamEpoch, event.accessUnitOrdinal⟩

/-- The filter of the live part of a response. -/
def Live (event : FrameMetadataEvent) (session camera : List Char) (cursor : Option Cursor) :
    Prop :=
  event.OfStream session camera ∧ ∀ last ∈ cursor, last.Before event.cursor

instance (event : FrameMetadataEvent) (session camera : List Char) (cursor : Option Cursor) :
    Decidable (event.Live session camera cursor) := inferInstanceAs (Decidable (_ ∧ _))

end FrameMetadataEvent

/-- A frame of the response. Its data is the event, written as JSON. -/
structure SseFrame where
  event : String
  id : String
  data : FrameMetadataEvent

def sseFrame (event : FrameMetadataEvent) : SseFrame where
  event := "frame"
  id := toString event.streamEpoch ++ ":" ++ toString event.accessUnitOrdinal
  data := event

/-! ## The two tasks -/

/-- Where the manager task stands in the loop that publishes events. -/
inductive Publisher where
  | between (remaining : List FrameMetadataEvent)
  | appended (event : FrameMetadataEvent) (remaining : List FrameMetadataEvent)

/-- Where a request stands. From the subscription on, the channel keeps what
it has not read yet; `initial` is what is left of the history. -/
inductive Request where
  | none
  | refused
  | found (session camera : List Char)
  | subscribed (session camera : List Char) (unread : List FrameMetadataEvent)
  | following (session camera : List Char) (cursor : Option Cursor)
      (initial unread : List FrameMetadataEvent) (response : List SseFrame)

/-- The bounds of the buffer are those of `Config::from_env`. -/
structure RelayServer where
  manager : RelayManager
  eventBuffer : Nat
  bufferBounds : 16 ≤ eventBuffer ∧ eventBuffer ≤ 4096
  publisher : Publisher
  request : Request

inductive ServerAction where
  | process (step : SynchronizedDatasetStep) (manifest : SessionManifestV1) (media : StepMedia)
  | append
  | send
  | clear
  | request (session camera : List Char)
  | subscribe
  | readHistory
  | poll

/-- A subscription that lags loses the oldest events it has not read. -/
def Request.take (slots : Nat) (event : FrameMetadataEvent) : Request → Request
  | .subscribed session camera unread =>
    .subscribed session camera (trim slots (unread ++ [event]))
  | .following session camera cursor initial unread response =>
    .following session camera cursor initial (trim slots (unread ++ [event])) response
  | request => request

/-- The response stream is polled: first the history, then the channel. -/
def Request.poll : Request → Request
  | .following session camera cursor (event :: initial) unread response =>
    .following session camera cursor initial unread (response ++ [sseFrame event])
  | .following session camera cursor [] (event :: unread) response =>
    .following session camera cursor [] unread
      (if event.Live session camera cursor then response ++ [sseFrame event] else response)
  | request => request

namespace RelayServer

/-- `broadcast::channel` rounds its capacity up. -/
def slots (self : RelayServer) : Nat := self.eventBuffer.nextPowerOfTwo

def history (self : RelayServer) (session camera : List Char) : List FrameMetadataEvent :=
  self.manager.http.history session camera

def step (self : RelayServer) : ServerAction → RelayServer
  | .process step manifest media =>
    match self.publisher with
    | .between [] =>
      match self.manager.openStep step manifest media with
      | (.error _, manager) => { self with manager }
      | (.ok events, manager) => { self with manager, publisher := .between events }
    | _ => self
  | .append =>
    match self.publisher with
    | .between (event :: remaining) =>
      { self with
        manager := self.manager.append event
        publisher := .appended event remaining }
    | _ => self
  | .send =>
    match self.publisher with
    | .appended event remaining =>
      { self with
        publisher := .between remaining
        request := self.request.take self.slots event }
    | _ => self
  | .clear =>
    match self.publisher with
    | .between [] => { self with manager := self.manager.clearActiveSession }
    | _ => self
  | .request session camera =>
    match self.request with
    | .none =>
      { self with
        request :=
          if (self.manager.http.uuidText.parseStr session).isSome ∧
              streamKey session camera ∈ self.manager.http.streams then
            .found session camera
          else .refused }
    | _ => self
  | .subscribe =>
    match self.request with
    | .found session camera => { self with request := .subscribed session camera [] }
    | _ => self
  | .readHistory =>
    match self.request with
    | .subscribed session camera unread =>
      { self with
        request := .following session camera
          ((self.history session camera).getLast?.map (·.cursor))
          (self.history session camera) unread [] }
    | _ => self
  | .poll => { self with request := self.request.poll }

/-- The relay follows a session, and nobody has asked for anything yet. -/
def opened (uuidText : UuidText) (historyPerStream eventBuffer : Nat)
    (historyBounds : 32 ≤ historyPerStream ∧ historyPerStream ≤ 4096)
    (bufferBounds : 16 ≤ eventBuffer ∧ eventBuffer ≤ 4096) (sessionId : Uuid) : RelayServer where
  manager :=
    ((RelayManager.new uuidText historyPerStream historyBounds).resetSession sessionId true).2
  eventBuffer
  bufferBounds
  publisher := .between []
  request := .none

end RelayServer

/-! ## What is under way -/

/-- The event that is in its history and not in the channel yet. -/
def Publisher.unsent : Publisher → List FrameMetadataEvent
  | .between _ => []
  | .appended event _ => [event]

/-- The events that are still to be appended. -/
def Publisher.remaining : Publisher → List FrameMetadataEvent
  | .between remaining => remaining
  | .appended _ remaining => remaining

/-- What the channel keeps for the request. -/
def Request.unread : Request → List FrameMetadataEvent
  | .subscribed _ _ unread => unread
  | .following _ _ _ _ unread _ => unread
  | _ => []

/-- The stream of a request that is going to read the history. -/
def Request.reading : Request → Option (List Char × List Char)
  | .subscribed session camera _ => some (session, camera)
  | _ => .none

def Request.response : Request → List SseFrame
  | .following _ _ _ _ _ response => response
  | _ => []

/-- Everything of history and channel is in the response. -/
def Request.Drained : Request → Prop
  | .following _ _ _ initial unread _ => initial = [] ∧ unread = []
  | _ => False

theorem Request.unread_take (slots : Nat) (event : FrameMetadataEvent) (request : Request) :
    (request.take slots event).unread ⊆ request.unread ++ [event] := by
  cases request with
  | subscribed session camera unread => exact (trim_suffix slots _).subset
  | following session camera cursor initial unread response =>
    exact (trim_suffix slots _).subset
  | none => exact List.nil_subset _
  | refused => exact List.nil_subset _
  | found session camera => exact List.nil_subset _

theorem Request.unread_poll (request : Request) : request.poll.unread ⊆ request.unread := by
  unfold poll
  split
  · exact List.Subset.refl _
  · exact List.subset_cons_self _ _
  · exact List.Subset.refl _

namespace RelayServer

/-- The event of the stream that an action appends. -/
def appending (session camera : List Char) (self : RelayServer) :
    ServerAction → List FrameMetadataEvent
  | .append =>
    match self.publisher with
    | .between (event :: _) => if event.OfStream session camera then [event] else []
    | _ => []
  | _ => []

variable {session camera : List Char} {actions : List ServerAction} {server : RelayServer}
  {initial : List FrameMetadataEvent}

theorem appending_of_ne {self : RelayServer} {action : ServerAction} (h : action ≠ .append) :
    self.appending session camera action = [] := by
  cases action with
  | append => exact absurd rfl h
  | _ => rfl

/-- The events of the stream that a run publishes. -/
def published (session camera : List Char) (self : RelayServer) (actions : List ServerAction) :
    List FrameMetadataEvent :=
  outputs step (appending session camera) self actions

theorem published_append (session camera : List Char) (self : RelayServer)
    (before after : List ServerAction) :
    self.published session camera (before ++ after) =
      self.published session camera before ++
        (run step self before).published session camera after :=
  outputs_append

theorem published_eq_nil {self : RelayServer} (h : ∀ action ∈ actions, action ≠ .append) :
    self.published session camera actions = [] := by
  induction actions generalizing self with
  | nil => rfl
  | cons action actions ih =>
    rw [published, outputs, appending_of_ne (h action List.mem_cons_self), ← published]
    exact ih fun other hother => h other (List.mem_cons_of_mem _ hother)

/-- The session is not left. -/
def NotReset (self : RelayServer) : ServerAction → Prop
  | .process step _ _ => ∀ sessionId ∈ Uuid.fromSlice step.sessionId,
      self.manager.activeSession = some sessionId
  | .clear => False
  | _ => True

/-- The channel has room for what is sent. -/
def NotLagging (self : RelayServer) : ServerAction → Prop
  | .send => ∀ _event ∈ self.publisher.unsent, self.request.unread.length < self.slots
  | _ => True

instance (self : RelayServer) : (action : ServerAction) → Decidable (NotReset self action)
  | .process step _ _ => inferInstanceAs (Decidable (∀ sessionId ∈ Uuid.fromSlice step.sessionId, _))
  | .clear => instDecidableFalse
  | .append | .send | .request _ _ | .subscribe | .readHistory | .poll => instDecidableTrue

instance (self : RelayServer) : (action : ServerAction) → Decidable (NotLagging self action)
  | .send => inferInstanceAs (Decidable (∀ _event ∈ self.publisher.unsent, _))
  | .process _ _ _ | .append | .clear | .request _ _ | .subscribe | .readHistory | .poll =>
    instDecidableTrue

/-- Nothing is kept or under way, as when a session has just been opened. -/
structure Fresh (server : RelayServer) : Prop where
  histories : server.manager.http.histories = ∅
  publisher : server.publisher = .between []
  request : server.request = .none

theorem fresh_opened {uuidText : UuidText} {historyPerStream eventBuffer : Nat}
    (historyBounds : 32 ≤ historyPerStream ∧ historyPerStream ≤ 4096)
    (bufferBounds : 16 ≤ eventBuffer ∧ eventBuffer ≤ 4096) (sessionId : Uuid) :
    Fresh (opened uuidText historyPerStream eventBuffer historyBounds bufferBounds sessionId) :=
  ⟨rfl, rfl, rfl⟩

/-! ## Before the history is read -/

/-- What links the server to the events of a stream appended so far: the
history is the end of them, and nothing else of the stream is under way. -/
structure Tracked (session camera : List Char) (server : RelayServer)
    (appended : List FrameMetadataEvent) : Prop where
  history : server.history session camera <:+ appended
  newest : (server.history session camera).getLast? = appended.getLast?
  underway : ∀ event ∈ server.request.unread ++ server.publisher.unsent,
    event.OfStream session camera → event ∈ appended
  keyed : ∀ event ∈ server.publisher.remaining, '/' ∉ event.sessionId ∧ '/' ∉ event.cameraKey

namespace Tracked

variable {session camera : List Char} {server : RelayServer}
  {appended : List FrameMetadataEvent}

theorem fresh (h : server.Fresh) : Tracked session camera server [] := by
  have hhistory : server.history session camera = [] := by
    rw [RelayServer.history, HttpState.history, h.histories]
    simp
  refine ⟨by rw [hhistory], by rw [hhistory], ?_, ?_⟩
  · rw [h.request, h.publisher]
    exact List.forall_mem_nil _
  · rw [h.publisher]
    exact List.forall_mem_nil _

/-- A section of the request that reads at most less from the channel. -/
theorem of_request (h : Tracked session camera server appended) {request : Request}
    (hunread : request.unread ⊆ server.request.unread) :
    Tracked session camera { server with request } appended := by
  refine ⟨h.history, h.newest, ?_, h.keyed⟩
  intro event hevent
  refine h.underway event ?_
  rcases List.mem_append.mp hevent with hmem | hmem
  · exact List.mem_append_left _ (hunread hmem)
  · exact List.mem_append_right _ hmem

/-- The manager takes up new events while none is under way. -/
theorem of_manager (h : Tracked session camera server appended) {manager : RelayManager}
    {events : List FrameMetadataEvent} (hidle : server.publisher = .between [])
    (hhistories : manager.http.histories = server.manager.http.histories)
    (hkeyed : ∀ event ∈ events, '/' ∉ event.sessionId ∧ '/' ∉ event.cameraKey) :
    Tracked session camera { server with manager, publisher := .between events } appended := by
  have hsame := HttpState.history_congr hhistories session camera
  refine ⟨?_, ?_, ?_, hkeyed⟩
  · show manager.http.history session camera <:+ _
    rw [hsame]
    exact h.history
  · show (manager.http.history session camera).getLast? = _
    rw [hsame]
    exact h.newest
  · intro event hevent
    refine h.underway event ?_
    rw [hidle]
    exact hevent

theorem process (h : Tracked session camera server appended) (step : SynchronizedDatasetStep)
    (manifest : SessionManifestV1) (media : StepMedia)
    (hkept : server.NotReset (.process step manifest media)) :
    Tracked session camera (server.step (.process step manifest media)) appended := by
  have hhistories := RelayManager.openStep_histories manifest media hkept
  rw [RelayServer.step]
  split
  · rename_i hidle
    split
    · rename_i error manager hopen
      rw [hopen] at hhistories
      have hnext := h.of_manager hidle hhistories (List.forall_mem_nil _)
      rw [← hidle] at hnext
      exact hnext
    · rename_i events manager hopen
      rw [hopen] at hhistories
      exact h.of_manager hidle hhistories (not_mem_of_projectMetadata
        (RelayManager.openStep_events (congrArg Prod.fst hopen)))
  · exact h

/-- An event of the stream becomes the newest of its history; any other one
leaves the history alone. -/
theorem append (h : Tracked session camera server appended) :
    Tracked session camera (server.step .append)
      (appended ++ server.appending session camera .append) := by
  rw [RelayServer.step, RelayServer.appending]
  split
  · rename_i event remaining hpublisher
    obtain ⟨hsession, hcamera⟩ := h.keyed event (by rw [hpublisher]; exact List.mem_cons_self)
    have hkeyed : ∀ other ∈ remaining, '/' ∉ other.sessionId ∧ '/' ∉ other.cameraKey := by
      intro other hother
      refine h.keyed other ?_
      rw [hpublisher]
      exact List.mem_cons_of_mem _ hother
    have hunread : ∀ other ∈ server.request.unread, other.OfStream session camera →
        other ∈ appended :=
      fun other hother => h.underway other (List.mem_append_left _ hother)
    have hhistory := server.manager.http.history_append session camera hsession hcamera
    by_cases hstream : event.OfStream session camera
    · rw [if_pos hstream] at hhistory ⊢
      have hpositive : 0 < server.manager.http.historyPerStream :=
        Nat.lt_of_lt_of_le (by decide) server.manager.http.historyBounds.1
      refine ⟨?_, ?_, ?_, hkeyed⟩
      · show (server.manager.http.append event).history session camera <:+ _
        rw [hhistory]
        exact (trim_suffix _ _).trans (List.suffix_append_self_iff.mpr h.history)
      · show ((server.manager.http.append event).history session camera).getLast? = _
        rw [hhistory, getLast?_trim hpositive]
        simp
      · intro other hother hof
        rcases List.mem_append.mp hother with hmem | hmem
        · exact List.mem_append_left _ (hunread other hmem hof)
        · exact List.mem_append_right _ hmem
    · rw [if_neg hstream] at hhistory ⊢
      rw [List.append_nil]
      refine ⟨?_, ?_, ?_, hkeyed⟩
      · show (server.manager.http.append event).history session camera <:+ _
        rw [hhistory]
        exact h.history
      · show ((server.manager.http.append event).history session camera).getLast? = _
        rw [hhistory]
        exact h.newest
      · intro other hother hof
        rcases List.mem_append.mp hother with hmem | hmem
        · exact hunread other hmem hof
        · rw [List.mem_singleton.mp hmem] at hof
          exact absurd hof hstream
  · rw [List.append_nil]
    exact h

theorem send (h : Tracked session camera server appended) :
    Tracked session camera (server.step .send) appended := by
  rw [RelayServer.step]
  split
  · rename_i event remaining hpublisher
    have hkeyed := h.keyed
    have hunderway := h.underway
    rw [hpublisher] at hkeyed hunderway
    refine ⟨h.history, h.newest, ?_, hkeyed⟩
    intro other hother
    rw [Publisher.unsent, List.append_nil] at hother
    exact hunderway other (Request.unread_take _ event _ hother)
  · exact h

theorem step (server : RelayServer) (appended : List FrameMetadataEvent) (action : ServerAction)
    (h : Tracked session camera server appended) (hkept : server.NotReset action) :
    Tracked session camera (server.step action)
      (appended ++ server.appending session camera action) := by
  by_cases hother : action = .append
  · subst hother
    exact h.append
  · rw [appending_of_ne hother, List.append_nil]
    cases action with
    | append => exact absurd rfl hother
    | process step manifest media => exact h.process step manifest media hkept
    | send => exact h.send
    | clear => exact absurd hkept id
    | request session camera =>
      rw [RelayServer.step]
      split
      · refine h.of_request ?_
        split
        · exact List.nil_subset _
        · exact List.nil_subset _
      · exact h
    | subscribe =>
      rw [RelayServer.step]
      split
      · exact h.of_request (List.nil_subset _)
      · exact h
    | readHistory =>
      rw [RelayServer.step]
      split
      · rename_i hrequest
        refine h.of_request ?_
        rw [hrequest]
        exact List.Subset.refl _
      · exact h
    | poll => exact h.of_request (Request.unread_poll _)

end Tracked

/-! ## After the history is read -/

/-- The frames that events of the channel become. -/
def liveFrames (session camera : List Char) (cursor : Option Cursor)
    (events : List FrameMetadataEvent) : List SseFrame :=
  (events.filter fun event => event.Live session camera cursor).map sseFrame

section Live

variable {session camera : List Char} {cursor : Option Cursor}

@[simp] theorem liveFrames_nil : liveFrames session camera cursor [] = [] := rfl

@[simp] theorem liveFrames_append (first second : List FrameMetadataEvent) :
    liveFrames session camera cursor (first ++ second) =
      liveFrames session camera cursor first ++ liveFrames session camera cursor second := by
  simp [liveFrames]

theorem liveFrames_cons (event : FrameMetadataEvent) (events : List FrameMetadataEvent) :
    liveFrames session camera cursor (event :: events) =
      (if event.Live session camera cursor then [sseFrame event] else []) ++
        liveFrames session camera cursor events := by
  by_cases hlive : event.Live session camera cursor
  · simp [liveFrames, hlive]
  · simp [liveFrames, hlive]

theorem liveFrames_eq_nil {events : List FrameMetadataEvent}
    (h : ∀ event ∈ events, ¬ event.Live session camera cursor) :
    liveFrames session camera cursor events = [] := by
  rw [liveFrames, List.filter_eq_nil_iff.mpr (by simpa using h), List.map_nil]

end Live

/-- The balance of a request that follows: its response, what it has left of
history and channel, and the event that is not sent yet, make up the history
it read and everything appended since. -/
def Balanced (session camera : List Char) (cursor : Option Cursor)
    (history : List FrameMetadataEvent) (server : RelayServer)
    (later : List FrameMetadataEvent) : Prop :=
  ∃ initial unread response,
    server.request = .following session camera cursor initial unread response ∧
    response ++ initial.map sseFrame ++ liveFrames session camera cursor unread ++
        liveFrames session camera cursor server.publisher.unsent =
      (history ++ later).map sseFrame

namespace Balanced

variable {session camera : List Char} {cursor : Option Cursor}
  {history later : List FrameMetadataEvent} {server : RelayServer}

/-- A section of the manager task that appends and sends nothing. -/
theorem of_publisher (h : Balanced session camera cursor history server later)
    {next : RelayServer} (hrequest : next.request = server.request)
    (hunsent : next.publisher.unsent = server.publisher.unsent) :
    Balanced session camera cursor history next later := by
  obtain ⟨initial, unread, response, hfollowing, hbalance⟩ := h
  exact ⟨initial, unread, response, hrequest.trans hfollowing, by rw [hunsent, hbalance]⟩

/-- A new event of the stream joins both sides. -/
theorem append (h : Balanced session camera cursor history server later)
    (hlive : ∀ event ∈ server.appending session camera .append,
      event.Live session camera cursor) :
    Balanced session camera cursor history (server.step .append)
      (later ++ server.appending session camera .append) := by
  rw [RelayServer.appending] at hlive ⊢
  rw [RelayServer.step]
  split
  · rename_i event remaining hpublisher
    obtain ⟨initial, unread, response, hfollowing, hbalance⟩ := h
    rw [hpublisher, Publisher.unsent, liveFrames_nil, List.append_nil] at hbalance
    refine ⟨initial, unread, response, hfollowing, ?_⟩
    rw [Publisher.unsent, hbalance, liveFrames_cons, liveFrames_nil, List.append_nil,
      ← List.append_assoc, List.map_append]
    rw [hpublisher] at hlive
    by_cases hstream : event.OfStream session camera
    · simp only [hstream, if_true, List.mem_singleton, forall_eq] at hlive
      simp [hstream, hlive]
    · have hother : ¬ event.Live session camera cursor := fun h => hstream h.1
      simp [hstream, hother]
  · rw [List.append_nil]
    exact h

/-- The event moves from the publisher to the channel. -/
theorem send (h : Balanced session camera cursor history server later)
    (hlag : server.NotLagging .send) :
    Balanced session camera cursor history (server.step .send) later := by
  rw [RelayServer.step]
  split
  · rename_i event remaining hpublisher
    obtain ⟨initial, unread, response, hfollowing, hbalance⟩ := h
    have hroom : unread.length < server.slots := by
      rw [NotLagging, hpublisher, hfollowing] at hlag
      exact hlag event List.mem_cons_self
    refine ⟨initial, unread ++ [event], response, ?_, ?_⟩
    · show server.request.take server.slots event = _
      rw [hfollowing, Request.take, trim_of_le (by simpa using hroom)]
    · rw [hpublisher, Publisher.unsent] at hbalance
      rw [Publisher.unsent, liveFrames_append, liveFrames_nil, List.append_nil,
        ← List.append_assoc, hbalance]
  · exact h

theorem poll (h : Balanced session camera cursor history server later) :
    Balanced session camera cursor history (server.step .poll) later := by
  obtain ⟨initial, unread, response, hfollowing, hbalance⟩ := h
  cases initial with
  | cons event initial =>
    refine ⟨initial, unread, response ++ [sseFrame event], ?_, ?_⟩
    · rw [RelayServer.step, hfollowing, Request.poll]
    · rw [RelayServer.step, ← hbalance]
      simp
  | nil =>
    cases unread with
    | nil =>
      refine ⟨[], [], response, ?_, hbalance⟩
      rw [RelayServer.step, hfollowing]
      rfl
    | cons event unread =>
      refine ⟨[], unread, if event.Live session camera cursor then response ++ [sseFrame event]
        else response, ?_, ?_⟩
      · rw [RelayServer.step, hfollowing, Request.poll]
      · rw [RelayServer.step, ← hbalance, liveFrames_cons]
        by_cases hlive : event.Live session camera cursor
        · simp [hlive]
        · simp [hlive]

theorem response_prefix (h : Balanced session camera cursor history server later) :
    server.request.response <+: (history ++ later).map sseFrame := by
  obtain ⟨initial, unread, response, hfollowing, hbalance⟩ := h
  rw [hfollowing, Request.response, ← hbalance, List.append_assoc, List.append_assoc]
  exact List.prefix_append _ _

theorem response_eq (h : Balanced session camera cursor history server later)
    (hdrained : server.request.Drained) (hunsent : server.publisher.unsent = []) :
    server.request.response = (history ++ later).map sseFrame := by
  obtain ⟨initial, unread, response, hfollowing, hbalance⟩ := h
  rw [hfollowing] at hdrained ⊢
  obtain ⟨rfl, rfl⟩ := hdrained
  rw [hunsent] at hbalance
  rw [Request.response]
  simpa using hbalance

theorem step (server : RelayServer) (later : List FrameMetadataEvent) (action : ServerAction)
    (h : Balanced session camera cursor history server later) (hlag : server.NotLagging action)
    (hlive : ∀ event ∈ server.appending session camera action,
      event.Live session camera cursor) :
    Balanced session camera cursor history (server.step action)
      (later ++ server.appending session camera action) := by
  by_cases hother : action = .append
  · subst hother
    exact h.append hlive
  · rw [appending_of_ne hother, List.append_nil]
    obtain ⟨initial, unread, response, hfollowing, _⟩ := id h
    cases action with
    | append => exact absurd rfl hother
    | send => exact h.send hlag
    | poll => exact h.poll
    | process step manifest media =>
      rw [RelayServer.step]
      split
      · rename_i hidle
        split
        · exact h.of_publisher rfl rfl
        · exact h.of_publisher rfl (by rw [hidle]; rfl)
      · exact h
    | clear =>
      rw [RelayServer.step]
      split
      · exact h.of_publisher rfl rfl
      · exact h
    | request session camera =>
      rw [RelayServer.step, hfollowing]
      exact h
    | subscribe =>
      rw [RelayServer.step, hfollowing]
      exact h
    | readHistory =>
      rw [RelayServer.step, hfollowing]
      exact h

end Balanced

/-! ## Draining -/

/-- Polling often enough takes everything out of history and channel. -/
theorem exists_polled {cursor : Option Cursor} {unread : List FrameMetadataEvent}
    {response : List SseFrame}
    (h : server.request = .following session camera cursor initial unread response) :
    ∃ count response', run step server (List.replicate count .poll) =
      { server with request := .following session camera cursor [] [] response' } := by
  induction initial generalizing server response with
  | cons event initial ih =>
    have hpoll : (server.step .poll).request =
        .following session camera cursor initial unread (response ++ [sseFrame event]) := by
      rw [step, h, Request.poll]
    obtain ⟨count, response', hrun⟩ := ih hpoll
    exact ⟨count + 1, response', hrun⟩
  | nil =>
    induction unread generalizing server response with
    | cons event unread ih =>
      have hpoll : (server.step .poll).request = .following session camera cursor [] unread
          (if event.Live session camera cursor then response ++ [sseFrame event]
            else response) := by
        rw [step, h, Request.poll]
      obtain ⟨count, response', hrun⟩ := ih hpoll
      exact ⟨count + 1, response', hrun⟩
    | nil =>
      refine ⟨0, response, ?_⟩
      rw [← h]
      rfl

/-- Nothing of what was appended is still on its way. -/
def Settled (self : RelayServer) : Prop := self.request.Drained ∧ self.publisher.unsent = []

theorem meets_polls (server : RelayServer) (count : Nat) :
    Meets step NotLagging server (List.replicate count .poll) := by
  induction count generalizing server with
  | zero => trivial
  | succ count ih => exact ⟨trivial, ih _⟩

theorem slots_pos (server : RelayServer) : 0 < server.slots :=
  Nat.pos_of_isPowerOfTwo (Nat.isPowerOfTwo_nextPowerOfTwo _)

/-- Once the manager has sent what it appended, and the response has been
polled, nothing is on its way. -/
theorem exists_settled {cursor : Option Cursor} {unread : List FrameMetadataEvent}
    {response : List SseFrame}
    (h : server.request = .following session camera cursor initial unread response) :
    ∃ more, (∀ action ∈ more, action = .send ∨ action = .poll) ∧
      Meets step NotLagging server more ∧ (run step server more).Settled := by
  obtain ⟨count, polled, hrun⟩ := exists_polled h
  have hpolls : ∀ action ∈ List.replicate count ServerAction.poll,
      action = .send ∨ action = .poll :=
    fun action haction => Or.inr (List.eq_of_mem_replicate haction)
  cases hpublisher : server.publisher with
  | between remaining =>
    refine ⟨_, hpolls, meets_polls server count, ?_⟩
    rw [hrun]
    exact ⟨⟨rfl, rfl⟩, by rw [hpublisher]; rfl⟩
  | appended event remaining =>
    -- the channel is empty, so there is room for the event
    refine ⟨List.replicate count .poll ++ [.send, .poll], ?_, ?_, ?_⟩
    · intro action haction
      rcases List.mem_append.mp haction with hmem | hmem
      · exact hpolls action hmem
      · simpa using hmem
    · refine meets_append.mpr ⟨meets_polls server count, ?_, trivial, trivial⟩
      rw [hrun]
      exact fun _ _ => server.slots_pos
    · have hone : trim server.slots ([] ++ [event]) = [event] :=
        trim_of_le server.slots_pos
      rw [run_append, hrun, run_cons, run_cons, run_nil]
      simp only [step, hpublisher, Request.take]
      rw [slots] at hone
      simp only [slots, hone, Request.poll]
      exact ⟨⟨rfl, rfl⟩, rfl⟩

/-! ## What the subscriber receives -/

section Reading

variable {session camera : List Char} {appended later : List FrameMetadataEvent}

/-- The pairs of the events increase. -/
def Increasing (events : List FrameMetadataEvent) : Prop :=
  events.Pairwise fun earlier event => earlier.cursor.Before event.cursor

instance (events : List FrameMetadataEvent) : Decidable (Increasing events) :=
  inferInstanceAs (Decidable (events.Pairwise _))

/-- No event up to the cursor passes the filter. -/
theorem not_live_of_mem (hincreasing : Increasing appended) {event : FrameMetadataEvent}
    (hevent : event ∈ appended) :
    ¬ event.Live session camera (appended.getLast?.map (·.cursor)) := by
  rintro ⟨_, hlive⟩
  rcases List.eq_nil_or_concat' appended with rfl | ⟨earlier, last, rfl⟩
  · cases hevent
  · have hafter := hlive last.cursor (by simp)
    rcases List.mem_append.mp hevent with hmem | hmem
    · exact hafter.asymm ((List.pairwise_append.mp hincreasing).2.2 event hmem last (by simp))
    · rw [List.mem_singleton.mp hmem] at hafter
      exact Cursor.not_before_self _ hafter

/-- Every later event is behind the cursor. -/
theorem after_cursor (hincreasing : Increasing (appended ++ later)) {event : FrameMetadataEvent}
    (hevent : event ∈ later) :
    ∀ last ∈ appended.getLast?.map (·.cursor), last.Before event.cursor := by
  intro cursor hcursor
  obtain ⟨last, hlast, rfl⟩ := Option.map_eq_some_iff.mp hcursor
  exact (List.pairwise_append.mp hincreasing).2.2 last (List.mem_of_getLast? hlast) event hevent

end Reading

theorem ofStream_of_appending {action : ServerAction} {event : FrameMetadataEvent}
    (h : event ∈ server.appending session camera action) : event.OfStream session camera := by
  unfold appending at h
  split at h
  · split at h
    · split at h
      · rename_i hstream
        rwa [List.mem_singleton.mp h]
      · cases h
    · cases h
  · cases h

/-- At the moment of reading, everything of the stream that is under way is
in the history, and the cursor keeps it out. -/
theorem Tracked.balanced {appended : List FrameMetadataEvent}
    (h : Tracked session camera server appended) (hincreasing : Increasing appended)
    (hrequest : server.request.reading = some (session, camera)) :
    Balanced session camera (appended.getLast?.map (·.cursor)) (server.history session camera)
      (server.step .readHistory) [] := by
  obtain ⟨unread, hsubscribed⟩ :
      ∃ unread, server.request = .subscribed session camera unread := by
    unfold Request.reading at hrequest
    split at hrequest
    · rename_i hsubscribed
      cases hrequest
      exact ⟨_, hsubscribed⟩
    · cases hrequest
  have hunderway := h.underway
  rw [hsubscribed, Request.unread] at hunderway
  have hnone : ∀ event ∈ unread ++ server.publisher.unsent,
      ¬ event.Live session camera (appended.getLast?.map (·.cursor)) := by
    intro event hevent hlive
    exact not_live_of_mem hincreasing (hunderway event hevent hlive.1) hlive
  have hframes := liveFrames_eq_nil hnone
  rw [liveFrames_append] at hframes
  refine ⟨server.history session camera, unread, [], ?_, ?_⟩
  · rw [RelayServer.step, hsubscribed, ← h.newest]
  · rw [RelayServer.step, hsubscribed]
    show [] ++ _ ++ _ ++ liveFrames _ _ _ server.publisher.unsent = _
    rw [List.append_assoc, hframes]
    simp

/-- The balance holds in every run after the history was read. -/
theorem Balanced.run {cursor : Option Cursor} {history : List FrameMetadataEvent}
    (h : Balanced session camera cursor history server [])
    (hlag : Meets RelayServer.step NotLagging server actions)
    (hafter : ∀ event ∈ published session camera server actions, ∀ last ∈ cursor,
      last.Before event.cursor) :
    Balanced session camera cursor history (Lib.run RelayServer.step server actions)
      (published session camera server actions) := by
  have hstep : ∀ (server : RelayServer) (later : List FrameMetadataEvent) (action : ServerAction),
      ((∀ event ∈ later, ∀ last ∈ cursor, last.Before event.cursor) →
        Balanced session camera cursor history server later) →
      server.NotLagging action →
      (∀ event ∈ later ++ server.appending session camera action, ∀ last ∈ cursor,
        last.Before event.cursor) →
      Balanced session camera cursor history (server.step action)
        (later ++ server.appending session camera action) := by
    intro server later action hbalanced hlag hnew
    refine Balanced.step server later action ?_ hlag ?_
    · exact hbalanced fun event hevent => hnew event (List.mem_append_left _ hevent)
    · intro event hevent
      exact ⟨ofStream_of_appending hevent, hnew event (List.mem_append_right _ hevent)⟩
  have hstart : (∀ event ∈ ([] : List FrameMetadataEvent), ∀ last ∈ cursor,
      last.Before event.cursor) → Balanced session camera cursor history server [] := fun _ => h
  exact run_outputs_invariant hstep hstart hlag hafter

/-- What a subscriber should get: the history as it stood when it was read,
and every event of the stream since. -/
def expected (session camera : List Char) (self : RelayServer) (after : List ServerAction) :
    List FrameMetadataEvent :=
  self.history session camera ++ published session camera (self.step .readHistory) after

/-- A request that reads the history in this state gets what it should, in
order and nothing twice, and never waits for more than the channel. -/
structure Delivers (session camera : List Char) (server : RelayServer)
    (after : List ServerAction) : Prop where
  increasing : Increasing (expected session camera server after)
  sound : (run step server (.readHistory :: after)).request.response <+:
    (expected session camera server after).map sseFrame
  complete : (run step server (.readHistory :: after)).Settled →
    (run step server (.readHistory :: after)).request.response =
      (expected session camera server after).map sseFrame
  settles : ∃ more, (∀ action ∈ more, action = .send ∨ action = .poll) ∧
    (run step server (.readHistory :: after ++ more)).request.response =
      (expected session camera server after).map sseFrame

/-- Exactly once, in every interleaving: if the pairs of the stream increase,
the session is not left before the history is read, and the channel does not
lag, the subscriber gets the history as it stood and then every later event. -/
theorem subscriber_sees_each_event_once {start : RelayServer} (hstart : start.Fresh)
    (session camera : List Char) (before after : List ServerAction)
    (hrequest : (run step start before).request.reading = some (session, camera))
    (hkept : Meets step NotReset start before)
    (hlag : Meets step NotLagging start (before ++ .readHistory :: after))
    (hincreasing : Increasing
      (published session camera start (before ++ .readHistory :: after))) :
    Delivers session camera (run step start before) after := by
  have htracked : Tracked session camera (run step start before)
      (published session camera start before) :=
    run_outputs_invariant Tracked.step (Tracked.fresh hstart) hkept
  obtain ⟨_, _, hlag⟩ := meets_append.mp hlag
  have hsplit : published session camera start (before ++ .readHistory :: after) =
      published session camera start before ++
        published session camera ((run step start before).step .readHistory) after := by
    rw [published_append]
    rfl
  rw [hsplit] at hincreasing
  have hread := htracked.balanced (List.pairwise_append.mp hincreasing).1 hrequest
  have hbalanced := hread.run hlag fun event hevent => after_cursor hincreasing hevent
  refine ⟨?_, ?_, ?_, ?_⟩
  · exact hincreasing.sublist (htracked.history.sublist.append (List.Sublist.refl _))
  · exact hbalanced.response_prefix
  · exact fun hsettled => hbalanced.response_eq hsettled.1 hsettled.2
  · obtain ⟨initial, unread, response, hfollowing, _⟩ := id hbalanced
    obtain ⟨more, hmore, hroom, hsettled⟩ := exists_settled hfollowing
    have hsilent : ∀ action ∈ more, action ≠ .append := by
      rintro action haction rfl
      rcases hmore _ haction with h | h
      · cases h
      · cases h
    have hnothing : published session camera
        ((run step start before).step .readHistory) (after ++ more) =
        published session camera ((run step start before).step .readHistory) after := by
      rw [published_append, published_eq_nil hsilent, List.append_nil]
    have hlater := hread.run (meets_append.mpr ⟨hlag, hroom⟩) (by
      rw [hnothing]
      exact fun event hevent => after_cursor hincreasing hevent)
    rw [hnothing, run_append] at hlater
    refine ⟨more, hmore, ?_⟩
    rw [List.cons_append, run_cons, run_append]
    exact hlater.response_eq hsettled.1 hsettled.2

/-- A step with one frame of the front camera. -/
def frontStep (ordinal : UInt64) : SynchronizedDatasetStep where
  sessionId := (Uuid.ofNat 1).bytes
  manifestRevision := 1
  captureTimeEdgeNs := 100
  frames := [{
    cameraId := "front"
    captureTimeEdgeNs := 100
    skewFromAnchorNs := 0
    storageUri := ""
    encodedImage := [1]
    encodedImageMediaType := "video/h264"
    streamEpoch := 1
    normalizedPtsNs := 0
    accessUnitOrdinal := ordinal }]
  observationState := []
  action := []
  auxiliary := []
  valid := true
  invalidReason := ""
  anchorContext := some {}
  anchorContextPacket := some {}

theorem least_history : 32 ≤ 32 ∧ 32 ≤ 4096 := by decide

theorem least_buffer : 16 ≤ 16 ∧ 16 ≤ 4096 := by decide

/-- The least history and buffer that can be configured. -/
def frontServer : RelayServer := opened Uuid.text 32 16 least_history least_buffer (Uuid.ofNat 1)

/-- The first event is appended before the request subscribes, and sent
afterwards. -/
def joining : List ServerAction :=
  [.process (frontStep 0) {} .working, .append,
    .request (Uuid.text.hyphenated (.ofNat 1)) (cameraKey "front"), .subscribe, .send]

/-- A second event, while the response is polled. -/
def staying : List ServerAction :=
  [.process (frontStep 1) {} .working, .append, .poll, .send, .poll, .poll]

/-- The first event is in the history and in the channel, and comes once. -/
theorem subscriber_sees_each_event_once_joining :
    Delivers (Uuid.text.hyphenated (.ofNat 1)) (cameraKey "front") (run step frontServer joining)
        staying ∧
      (run step frontServer (joining ++ .readHistory :: staying)).request.response.map (·.id) =
        ["1:0", "1:1"] :=
  ⟨subscriber_sees_each_event_once (fresh_opened _ _ _) _ _ _ _ (by decide +kernel)
    (by decide +kernel) (by decide +kernel) (by decide +kernel), by decide +kernel⟩

end RelayServer
end RobotMulticam.Relay
