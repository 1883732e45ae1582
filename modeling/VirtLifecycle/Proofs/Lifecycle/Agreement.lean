/-
Module: VirtLifecycle.Proofs.Lifecycle.Agreement
Purpose: The cluster in memory and the server behind a connection agree on reads. If the one is scripted
  with answers that the other shows, an operation that only reads comes to the same result at the same
  time, with one request for each read. What does not come through the connection is told by runs: some
  doubles, objects nested too deeply and addresses that are too long.
Main exports: Lifecycle.Query, Lifecycle.InStep, Lifecycle.queries_agree, Lifecycle.queries_differ
-/
import VirtLifecycle.Proofs.Cluster.Http
import VirtLifecycle.Proofs.Lifecycle.Calls
import VirtLifecycle.Proofs.Lifecycle.Mirrors
import VirtLifecycle.Cluster.InMemory

namespace VirtLifecycle

/-- The reading by which a cluster in memory answers with an object or with none. -/
def Reading.ofAnswer {kind : Kind} : Option (Resource kind) → Reading kind
  | some value => .object value
  | none => .missing

namespace Lifecycle

/-- An operation that only reads objects of one kind. -/
inductive Query : Kind → Type where
  | read {kind : Kind} : Query kind
  | existsNow {kind : Kind} : Query kind
  | awaitCreated {kind : Kind} (timeout : Duration) : Query kind
  | awaitDeleted {kind : Kind} (timeout : Duration) : Query kind
  | awaitRunning (timeout : Duration) : Query .virtualMachineInstance

namespace Query

/-- What a query comes to if it succeeds. -/
abbrev Result : {kind : Kind} → Query kind → Type
  | kind, read | kind, awaitCreated _ => Resource kind
  | _, existsNow => Bool
  | _, awaitDeleted _ => Unit
  | _, awaitRunning _ => Resource .virtualMachineInstance

/-- The operation of a query. -/
def perform (config : Config) (id : ResourceId) : {kind : Kind} → (q : Query kind) → Operation q.Result
  | kind, read => Lifecycle.read kind id
  | kind, existsNow => Lifecycle.existsNow kind id
  | kind, awaitCreated timeout => Lifecycle.awaitCreated config kind id timeout
  | kind, awaitDeleted timeout => Lifecycle.awaitDeleted config kind id timeout
  | _, awaitRunning timeout => Lifecycle.awaitRunning config id timeout

/-- What a query comes to, as a document. -/
def shown : {kind : Kind} → (q : Query kind) → q.Result → Json
  | _, read, object | _, awaitCreated _, object | _, awaitRunning _, object => Resource.encode object
  | _, existsNow, there => .bool there
  | _, awaitDeleted _, _ => .null

variable {kind : Kind}

/-- What a query comes to if it reads in whole seconds. -/
def wholeSeconds : {kind : Kind} → (q : Query kind) → q.Result → q.Result
  | _, read, object | _, awaitCreated _, object | _, awaitRunning _, object =>
    Resource.wholeSeconds object
  | _, existsNow, there => there
  | _, awaitDeleted _, gone => gone

/-- What a query shows of an object shows no fractions of seconds, so it is the same in whole seconds. -/
theorem shown_wholeSeconds (q : Query kind) (result : q.Result) :
    q.shown (q.wholeSeconds result) = q.shown result := by
  cases q with
  | read | awaitCreated _ | awaitRunning _ => exact Resource.encode_wholeSeconds result
  | existsNow | awaitDeleted _ => rfl

/-- A query asks the same calls of both clusters and comes to the same result, but for the fractions of
seconds that a server does not send. -/
theorem mirrors_perform (q : Query kind) (config : Config) (id : ResourceId) :
    Operation.Mirrors inWholeSeconds q.wholeSeconds (q.perform config id) (q.perform config id) := by
  cases q with
  | read => exact mirrors_read kind id
  | existsNow => exact mirrors_existsNow kind id
  | awaitCreated timeout => exact mirrors_awaitCreated config kind id timeout
  | awaitDeleted timeout => exact mirrors_awaitDeleted config kind id timeout
  | awaitRunning timeout => exact mirrors_awaitRunning config id timeout

theorem onlyAsks_perform (q : Query kind) (config : Config) (id : ResourceId) :
    (q.perform config id).OnlyAsks (· = .get kind id) := by
  cases q with
  | read => exact onlyAsks_read kind id
  | existsNow => exact onlyAsks_existsNow kind id
  | awaitCreated timeout => exact onlyAsks_awaitCreated config kind id timeout
  | awaitDeleted timeout => exact onlyAsks_awaitDeleted config kind id timeout
  | awaitRunning timeout => exact onlyAsks_awaitRunning config id timeout

end Query

/-! ### Answers in step -/

/-- The cluster in memory and the server have the same answers to come for an object, and each has
counted as many reads as the other. -/
inductive InStep (kind : Kind) (id : ResourceId) (reads sent : Nat) : Nat → Cluster → Connection → Prop where
  | intro {cluster : Cluster} {connection : Connection} {answers : List (Option (Resource kind))}
      {responses others : List Response} {more : List (Reading kind)}
      (carries : ∀ object, some object ∈ answers → Response.Carries object)
      (shows : List.Forall₂ Response.Shows answers responses)
      (scripted : cluster.scripted kind id = answers.map Reading.ofAnswer ++ more)
      (responds : connection.responses = responses ++ others)
      (counted : cluster.reads + answers.length = reads)
      (requested : connection.sent.length + answers.length = sent) :
      InStep kind id reads sent answers.length cluster connection

/-- As many readings as are left on the one side, so many answers are left on the other, and as many reads
were made as requests sent. -/
theorem InStep.counts {kind : Kind} {id : ResourceId} {reads sent n : Nat} {cluster : Cluster}
    {connection : Connection} (h : InStep kind id reads sent n cluster connection) :
    cluster.reads + n = reads ∧ connection.sent.length + n = sent := by
  cases h with
  | intro _ _ _ _ counted requested => exact ⟨counted, requested⟩

variable {kind : Kind} {id : ResourceId}

/-- A read of a cluster in memory that is scripted uses up one answer. -/
theorem respond_of_scripted {cluster : Cluster} {reading : Reading kind} {rest : List (Reading kind)}
    (scripted : cluster.scripted kind id = reading :: rest) (time : Nat) :
    (cluster.respond time (.get kind id)).1 = (reading.reply, .zero) ∧
      (cluster.respond time (.get kind id)).2.scripted kind id = rest ∧
      (cluster.respond time (.get kind id)).2.reads = cluster.reads + 1 := by
  have answered : cluster.answer (.get kind id) = (reading.reply,
      { cluster with
        reads := cluster.reads + 1
        scripted := Cluster.setAt cluster.scripted kind id rest }) := by
    simp only [Cluster.answer, Cluster.get, scripted]
  simp only [Cluster.respond, answered, true_and, and_true]
  exact dif_pos ⟨rfl, rfl⟩

/-- A read over a connection is a request and uses up one response. -/
theorem respond_of_responses (labelled : id.IsLabelled)
    (fits : (Request.addressOf kind id).utf8ByteSize ≤ Request.targetLimit) {connection : Connection}
    {response : Response} {rest : List Response} (responses : connection.responses = response :: rest)
    (time : Nat) :
    connection.respond time (.get kind id) = ((response.reply (.get kind id), .zero),
      ⟨rest, ⟨"GET", Request.addressOf kind id, none, none, none⟩ :: connection.sent⟩) := by
  simp only [Connection.respond, Connection.answer, Request.ofCall_get labelled fits,
    Connection.exchange, responses, List.headD_cons, List.tail_cons]

/-- A read keeps the two in step, and is answered by both alike. -/
theorem InStep.respond (labelled : id.IsLabelled)
    (fits : (Request.addressOf kind id).utf8ByteSize ≤ Request.targetLimit) {reads sent n : Nat}
    {cluster : Cluster} {connection : Connection} (time : Nat) (call : Call) (asked : call = .get kind id)
    (inStep : InStep kind id reads sent (n + 1) cluster connection) :
    (connection.respond time call).1 =
        (inWholeSeconds call (cluster.respond time call).1.1, (cluster.respond time call).1.2) ∧
      InStep kind id reads sent n (cluster.respond time call).2
        (connection.respond time call).2 := by
  subst asked
  generalize left : n + 1 = most at inStep
  cases inStep with
  | @intro _ _ answers responses others more carries shows scripted responds counted requested =>
    cases shows with
    | nil => cases left
    | @cons answer response answers responses first later =>
      obtain ⟨reply, rest, reads⟩ := respond_of_scripted scripted time
      rw [respond_of_responses labelled fits responds, reply]
      have read : response.reply (.get kind id) = _ := Response.reply_of_shows
        (fun object same => carries object (same ▸ List.mem_cons_self)) first
      refine ⟨?_, ?_⟩
      · rw [read]
        cases answer <;> rfl
      · have length : n = answers.length := Nat.succ.inj left
        subst length
        rw [List.length_cons] at counted requested
        refine .intro (fun object mem => carries object (List.mem_cons_of_mem _ mem)) later rest rfl ?_ ?_
        · rw [reads]
          omega
        · rw [List.length_cons]
          omega

/-! ### Agreement -/

/-- Over answers that a server shows and a cluster in memory is scripted with, an operation that only
reads comes to the same document or error at the same time, with one request for each read. -/
theorem queries_agree (q : Query kind) (config : Config) (now : Nat) (labelled : id.IsLabelled)
    (fits : (Request.addressOf kind id).utf8ByteSize ≤ Request.targetLimit)
    {answers : List (Option (Resource kind))} {responses others : List Response}
    {more : List (Reading kind)} {cluster : Cluster} {connection : Connection}
    (carries : ∀ object, some object ∈ answers → Response.Carries object)
    (shows : List.Forall₂ Response.Shows answers responses)
    (scripted : cluster.scripted kind id = answers.map Reading.ofAnswer ++ more)
    (responds : connection.responses = responses ++ others)
    (few : ((q.perform config id now).run Cluster.respond cluster).calls.length ≤ answers.length) :
    let inMemory := (q.perform config id now).run Cluster.respond cluster
    let overHttp := (q.perform config id now).run Connection.respond connection
    (overHttp.result.map fun (result, time) => (result.map q.shown, time)) =
        (inMemory.result.map fun (result, time) => (result.map q.shown, time)) ∧
      overHttp.calls = inMemory.calls ∧
      inMemory.final.reads = cluster.reads + inMemory.calls.length ∧
      overHttp.final.sent.length = connection.sent.length + inMemory.calls.length := by
  intro inMemory overHttp
  have start : InStep kind id (cluster.reads + answers.length)
      (connection.sent.length + answers.length) answers.length cluster connection :=
    .intro carries shows scripted responds rfl rfl
  obtain ⟨result, calls, final⟩ := (q.mirrors_perform config id now).run
    (q.onlyAsks_perform config id now) (InStep.respond labelled fits) start few
  refine ⟨?_, calls, ?_⟩
  · rw [result, Option.map_map]
    congr 1
    funext (result, time)
    cases result with
    | error e => rfl
    | ok found => exact congrArg (fun shown => (Except.ok shown, time)) (q.shown_wholeSeconds found)
  · have enough : inMemory.calls.length ≤ answers.length := few
    have reads : inMemory.final.reads + (answers.length - inMemory.calls.length) =
        cluster.reads + answers.length := final.counts.1
    have requests : overHttp.final.sent.length + (answers.length - inMemory.calls.length) =
        connection.sent.length + answers.length := final.counts.2
    exact ⟨by omega, by omega⟩

/-- A machine that runs, with numbers in its template. -/
def settledMachine : Resource .virtualMachine where
  metadata := { name := some "a", space := some "n" }
  spec := { template := some ⟨.array [.int (-7), .number (.double ⟨0x3FE0000000000000⟩)],
    ⟨trivial, trivial, trivial⟩, by decide⟩ }
  status := some { created := true, ready := true }

/-- A body that tells that an object does not exist. -/
def notFoundBody : String :=
  "\x7b\"status\":\"Failure\",\"reason\":\"NotFound\",\"code\":404\x7d"

/-- The document of a server that explains not-found gives the reason that a get looks for. -/
theorem explains_notFoundBody : Response.ExplainsNotFound notFoundBody.toUTF8 :=
  ⟨notFoundBody, ⟨"Failure", "", "NotFound", 404⟩, fromUTF8?_toUTF8 _, rfl, rfl⟩

theorem carries_settledMachine : Response.Carries settledMachine where
  decoded := ⟨settledMachine.encode, rfl⟩
  numbers := by
    have half : Json.Number.Travels (.double ⟨0x3FE0000000000000⟩) := by
      have printed : Json.Number.print (.double ⟨0x3FE0000000000000⟩) = ['0', '.', '5'] := by
        decide +kernel
      rw [Json.Number.Travels, printed]
      exact Json.ofNumeral_of_scaled (n := ⟨false, ['0'], some ['5'], none⟩) (by decide) rfl
        (by decide +kernel)
    have seven : Json.Number.Travels (.int (-7)) := by constructor <;> decide
    have template : Json.ItemsTravel [.int (-7), .number (.double ⟨0x3FE0000000000000⟩)] :=
      ⟨seven, half, trivial⟩
    exact ⟨trivial, trivial, ⟨trivial, trivial, trivial⟩, ⟨template, trivial⟩,
      ⟨trivial, trivial, trivial⟩, trivial⟩
  shallow := by decide

/-- A machine that is missing at the first look and has settled at the second. -/
theorem queries_agree_of_settled :
    let id : ResourceId := ⟨"n", "a"⟩
    let q : Query .virtualMachine := .awaitCreated (.ofSeconds 10)
    let cluster := Cluster.empty.script id [.missing, .object settledMachine]
    let connection : Connection := ⟨[.answer 404 notFoundBody.toUTF8,
      .answer 200 settledMachine.encode.print.toUTF8], []⟩
    let inMemory := (q.perform .standard id 0).run Cluster.respond cluster
    let overHttp := (q.perform .standard id 0).run Connection.respond connection
    inMemory.calls.length = 2 ∧
      (overHttp.result.map fun (result, time) => (result.map q.shown, time)) =
        (inMemory.result.map fun (result, time) => (result.map q.shown, time)) ∧
      overHttp.final.sent.length = 2 := by
  intro id q cluster connection inMemory overHttp
  have two : inMemory.calls.length = 2 := by
    subst inMemory cluster q id
    rfl
  have labelled : id.IsLabelled :=
    ⟨by decide, List.all_eq_true.mp (by decide), List.all_eq_true.mp (by decide)⟩
  have fits : (Request.addressOf .virtualMachine id).utf8ByteSize ≤ Request.targetLimit := by decide
  have carries : ∀ object, some object ∈ [none, some settledMachine] → Response.Carries object := by
    intro object mem
    simp only [List.mem_cons, reduceCtorEq, Option.some.injEq, List.not_mem_nil, or_false,
      false_or] at mem
    exact mem ▸ carries_settledMachine
  have scripted : cluster.scripted .virtualMachine id =
      [none, some settledMachine].map Reading.ofAnswer ++ [] := rfl
  have responds : connection.responses = connection.responses ++ [] := rfl
  obtain ⟨result, _, _, requests⟩ := queries_agree q .standard 0 labelled fits carries
    (.cons (.missing explains_notFoundBody) (.cons (.object settledMachine) .nil)) scripted responds
    (Nat.le_of_eq two)
  exact ⟨two, result, requests.trans (congrArg (0 + ·) two)⟩

/-! ### Answers that do not come through -/

/-- A machine whose template holds some data. -/
def machineWith (data : Freeform) : Resource .virtualMachine where
  metadata := { name := some "a", space := some "n" }
  spec := { template := some {
    value := .object [("x", data.value)]
    canonical := ⟨List.pairwise_singleton _ _, data.canonical, trivial⟩
    usable := Bool.and_eq_true_iff.mpr ⟨data.usable, rfl⟩ } }
  status := none

/-- A number as free-form data. -/
def numeric (n : Json.Number) (finite : n.isFinite = true) : Freeform :=
  ⟨.number n, trivial, finite⟩

/-- Nothing within so many lists. -/
def nested : Nat → Freeform
  | 0 => ⟨.null, trivial, rfl⟩
  | n + 1 => ⟨.array [(nested n).value], ⟨(nested n).canonical, trivial⟩,
      Bool.and_eq_true_iff.mpr ⟨(nested n).usable, rfl⟩⟩

/-- What a single read at the time zero comes to, as a document. -/
def shownByRead {σ : Type} (respond : Plan.Responder Call Call.Reply σ) (state : σ) (id : ResourceId) :
    Option (Except LifecycleError Json × Nat) :=
  ((read .virtualMachine id 0).run respond state).result.map fun (result, time) =>
    (result.map Resource.encode, time)

/-- What a read comes to with a reply. -/
def shownOfReply (id : ResourceId) :
    Except ClientError (Option (Resource .virtualMachine)) → Except LifecycleError Json
  | .ok (some machine) => .ok machine.encode
  | .ok none => .error (.notFound .virtualMachine id)
  | .error cause => .error (.client cause)

theorem shownByRead_of_reply {σ : Type} {respond : Plan.Responder Call Call.Reply σ} {state : σ}
    {found : Except ClientError (Option (Resource .virtualMachine))}
    (answered : (respond state 0 (.get .virtualMachine id)).1 = (found, .zero)) :
    shownByRead respond state id = some (shownOfReply id found, 0) := by
  unfold shownByRead read
  rw [Operation.run_call_bind, answered]
  rcases found with cause | _ | machine
  · rfl
  · rfl
  · rfl

/-- A cluster in memory shows the machine that it is scripted with. -/
theorem shownByRead_inMemory (id : ResourceId) (machine : Resource .virtualMachine) :
    shownByRead Cluster.respond (Cluster.empty.script id [.object machine]) id =
      some (.ok machine.encode, 0) := by
  have scripted : (Cluster.empty.script id [Reading.object machine]).scripted .virtualMachine id =
      [.object machine] := dif_pos ⟨rfl, rfl⟩
  exact shownByRead_of_reply (respond_of_scripted scripted 0).1

/-- A connection that answers with a machine. -/
def answering (machine : Resource .virtualMachine) : Connection :=
  ⟨[.answer 200 machine.encode.print.toUTF8], []⟩

/-- Over a connection a machine is shown as it is read from the body, if it can be. -/
theorem shownByRead_overHttp {machine : Resource .virtualMachine}
    {found : Option (Resource .virtualMachine)}
    (read : (Json.read? machine.encode.print).bind (Resource.decode? .virtualMachine) = found) :
    shownByRead Connection.respond (answering machine) ⟨"n", "a"⟩ =
      some (found.elim (.error (.client .undecodableAnswer)) fun machine => .ok machine.encode, 0) := by
  have labelled : ResourceId.IsLabelled ⟨"n", "a"⟩ :=
    ⟨by decide, List.all_eq_true.mp (by decide), List.all_eq_true.mp (by decide)⟩
  have fits : (Request.addressOf .virtualMachine ⟨"n", "a"⟩).utf8ByteSize ≤ Request.targetLimit := by
    decide
  have text : Response.text (.answer 200 machine.encode.print.toUTF8) = .ok machine.encode.print := by
    rw [Response.text, fromUTF8?_toUTF8]
    rfl
  have responses : (answering machine).responses = [.answer 200 machine.encode.print.toUTF8] := rfl
  have answered := respond_of_responses labelled fits responses 0
  rw [shownByRead_of_reply (congrArg Prod.fst answered)]
  simp only [Response.reply, text, Except.bind, Response.object, read]
  cases found with
  | none => rfl
  | some machine => rfl

/-! A double, digits that are read as its neighbour -/

/-- The text of a double whose digits are read as the next double. -/
theorem ofNumeral_print_double :
    Json.ofNumeral (Json.Number.print (.double ⟨0x48693730F68602EE⟩)) =
      some (.number (.double ⟨0x48693730F68602EF⟩)) := by
  have printed : Json.Number.print (.double ⟨0x48693730F68602EE⟩) = "6.864336754504868e40".toList := by
    decide +kernel
  rw [printed]
  exact Json.ofNumeral_of_scaled
    (n := ⟨false, ['6'], some "864336754504868".toList, some (false, ['4', '0'])⟩)
    (by decide +kernel) rfl (by decide +kernel)

/-- The text of a machine up to the value in its template. -/
def frontOfMachine : String :=
  "\x7b\"apiVersion\":\"kubevirt.io/v1\",\"kind\":\"VirtualMachine\"," ++
    "\"metadata\":\x7b\"name\":\"a\",\"namespace\":\"n\"\x7d,\"spec\":\x7b\"template\":\x7b\"x\":"

set_option maxRecDepth 4000 in
/-- A machine whose template holds a number is read with what the text of the number stands for. -/
theorem read?_machineWith {n : Json.Number} (finite : n.isFinite = true) {data : Freeform}
    (read : Json.ofNumeral n.print = some data.value) :
    Json.read? (machineWith (numeric n finite)).encode.print = some (machineWith data).encode := by
  have printed : Json.printOnto (machineWith (numeric n finite)).encode [] =
      frontOfMachine.toList ++ (n.print ++ ['}', '}', '}']) := rfl
  let around : List Json.Frame := [.member [] "x", .member [] "template",
    .member [("metadata", Metadata.codec.write (machineWith data).metadata), ("kind", .text "VirtualMachine"),
      ("apiVersion", .text "kubevirt.io/v1")] "spec"]
  have front : ∀ rest, Json.finish .start (frontOfMachine.toList ++ rest) =
      Json.finish ⟨around, .value⟩ rest := fun rest => rfl
  have ends : Json.EndsValue ['}', '}', '}'] := by
    rintro _ ⟨⟩
    exact .inr (.inr rfl)
  have whole := front (n.print ++ ['}', '}', '}'])
  rw [Json.finish_of_ofNumeral read around ends] at whole
  rw [Json.read?, Json.print, String.toList_ofList, printed]
  exact whole

set_option maxRecDepth 4000 in
/-- What is nested too deeply is not read. -/
theorem read?_machineWith_nested :
    (Json.read? (machineWith (nested 125)).encode.print).bind (Resource.decode? .virtualMachine) =
      none := by
  have unread : (Json.readChars? (Json.printOnto (machineWith (nested 125)).encode [])).bind
      (Resource.decode? .virtualMachine) = none :=
    Option.isNone_iff_eq_none.mp (by decide +kernel)
  rw [Json.read?, Json.print, String.toList_ofList, unread]

/-- Nothing is read from an address that is too long. -/
theorem shownByRead_of_long {id : ResourceId} (named : id.name ≠ "")
    (long : Request.targetLimit < (Request.addressOf .virtualMachine id).utf8ByteSize)
    (connection : Connection) :
    shownByRead Connection.respond connection id =
      some (.error (.client (.unbuildable .tooLong)), 0) := by
  have unsent : (connection.respond 0 (.get .virtualMachine id)).1 =
      (.error (.unbuildable .tooLong), .zero) := by
    simp only [Connection.respond, Connection.answer, Request.ofCall_get_of_long named long]
  exact shownByRead_of_reply unsent

theorem utf8ByteSize_replicate (n : Nat) :
    (String.ofList (List.replicate n 'a')).utf8ByteSize = n := by
  induction n with
  | zero => rfl
  | succ n ih =>
    rw [List.replicate_succ', String.ofList_append, String.utf8ByteSize_append, ih]
    rfl

/-- A name that is longer than addresses may be. -/
theorem long_of_replicate {n : Nat} (long : Request.targetLimit < n) :
    String.ofList (List.replicate n 'a') ≠ "" ∧
      Request.targetLimit < (Request.addressOf .virtualMachine
        ⟨"n", String.ofList (List.replicate n 'a')⟩).utf8ByteSize := by
  have size := utf8ByteSize_replicate n
  refine ⟨fun empty => ?_, ?_⟩
  · rw [empty] at size
    exact absurd long (Nat.not_lt.mpr (size ▸ Nat.zero_le _))
  · rw [Request.addressOf, String.utf8ByteSize_append, size]
    exact Nat.lt_of_lt_of_le long (Nat.le_add_left n _)

/-- The machine whose template holds the double. -/
def roundedMachine : Resource .virtualMachine :=
  machineWith (numeric (.double ⟨0x48693730F68602EE⟩) (by decide))

/-- The machine whose template holds the next double. -/
def neighbourMachine : Resource .virtualMachine :=
  machineWith (numeric (.double ⟨0x48693730F68602EF⟩) (by decide))

/-- A machine whose template is nested in more lists than a reader opens. -/
def deepMachine : Resource .virtualMachine :=
  machineWith (nested 125)

/-- A name that no address has room for. -/
def longId : ResourceId :=
  ⟨"n", String.ofList (List.replicate 65535 'a')⟩

theorem decode?_roundedMachine :
    Resource.decode? .virtualMachine roundedMachine.encode = some roundedMachine := rfl

theorem decode?_neighbourMachine :
    Resource.decode? .virtualMachine neighbourMachine.encode = some neighbourMachine := rfl

set_option maxRecDepth 4000 in
theorem decode?_deepMachine :
    Resource.decode? .virtualMachine deepMachine.encode = some deepMachine := rfl

/-- The two doubles are written differently, since what is written reads as the one or the other. -/
theorem encode_roundedMachine_ne : roundedMachine.encode ≠ neighbourMachine.encode := by
  intro same
  have read := congrArg (Resource.decode? .virtualMachine) same
  rw [decode?_roundedMachine, decode?_neighbourMachine] at read
  have doubles := Option.some.inj read
  simp [roundedMachine, neighbourMachine, machineWith, numeric] at doubles

theorem decode_read?_roundedMachine :
    (Json.read? roundedMachine.encode.print).bind (Resource.decode? .virtualMachine) =
      some neighbourMachine := by
  have read : Json.read? roundedMachine.encode.print = some neighbourMachine.encode :=
    read?_machineWith _ ofNumeral_print_double
  rw [read]
  exact decode?_neighbourMachine

/-- Three answers that do not come through a connection as they are: a double whose text is read as its
neighbour, a value that is nested in too many lists, and any answer for a name that is too long. -/
theorem queries_differ :
    (Resource.decode? .virtualMachine roundedMachine.encode = some roundedMachine ∧
      shownByRead Cluster.respond (Cluster.empty.script ⟨"n", "a"⟩ [.object roundedMachine]) ⟨"n", "a"⟩ =
        some (.ok roundedMachine.encode, 0) ∧
      shownByRead Connection.respond (answering roundedMachine) ⟨"n", "a"⟩ =
        some (.ok neighbourMachine.encode, 0) ∧
      roundedMachine.encode ≠ neighbourMachine.encode) ∧
    (Resource.decode? .virtualMachine deepMachine.encode = some deepMachine ∧
      shownByRead Cluster.respond (Cluster.empty.script ⟨"n", "a"⟩ [.object deepMachine]) ⟨"n", "a"⟩ =
        some (.ok deepMachine.encode, 0) ∧
      shownByRead Connection.respond (answering deepMachine) ⟨"n", "a"⟩ =
        some (.error (.client .undecodableAnswer), 0)) ∧
    (Resource.decode? .virtualMachine neighbourMachine.encode = some neighbourMachine ∧
      shownByRead Cluster.respond (Cluster.empty.script longId [.object neighbourMachine]) longId =
        some (.ok neighbourMachine.encode, 0) ∧
      shownByRead Connection.respond (answering neighbourMachine) longId =
        some (.error (.client (.unbuildable .tooLong)), 0)) := by
  have long : longId.name ≠ "" ∧
      Request.targetLimit < (Request.addressOf .virtualMachine longId).utf8ByteSize :=
    long_of_replicate (by decide)
  refine ⟨⟨decode?_roundedMachine, shownByRead_inMemory _ _, ?_, encode_roundedMachine_ne⟩,
    ⟨decode?_deepMachine, shownByRead_inMemory _ _, ?_⟩,
    ⟨decode?_neighbourMachine, shownByRead_inMemory _ _, ?_⟩⟩
  · exact shownByRead_overHttp decode_read?_roundedMachine
  · exact shownByRead_overHttp read?_machineWith_nested
  · exact shownByRead_of_long long.1 long.2 _

end Lifecycle

end VirtLifecycle
