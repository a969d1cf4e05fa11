import TelemetryGateway.View.Reply
import TelemetryGateway.View.StatsOfRun

/-! # From the stream to the browser

The server asks the state for its statistics while the consumer loop goes on.
What a browser reads of an answer is the JSON of all frames received by then. -/

namespace TelemetryGateway

namespace View

open Http

def respond (page : List UInt8) (stats : List Char) (path : List UInt8) : Response :=
  if path = text "/stats.json" then
    { status := 200, contentType := text "application/json", body := text (String.ofList stats) }
  else if path = text "/" ∨ path = text "/index.html" then
    { status := 200, contentType := text "text/html; charset=utf-8", body := page }
  else { status := 404, contentType := text "text/plain", body := text "not found" }

/-- What the script on the page makes of the bytes it gets for `/stats.json`. -/
def fetchStats (received : List UInt8) : Option Json := do
  let reply ← HttpMessage.read lengthName received
  if reply.status = text "HTTP/1.1 200 OK" then
    let characters ← String.fromUTF8? ⟨reply.body.toArray⟩
    Json.parse characters.toList
  else none

theorem plain_respond (page : List UInt8) (stats : List Char) (path : List UInt8) :
    13 ∉ (respond page stats path).contentType := by
  unfold respond
  split
  · exact PlainLine.plain (by decide +kernel)
  · split <;> exact PlainLine.plain (by decide +kernel)

theorem fetchStats_reply {received : List UInt8} {stats : List Char} (page : List UInt8)
    (complete : HttpMessage.read lengthName received =
      some (respond page stats (text "/stats.json")).reply) :
    fetchStats received = Json.parse stats := by
  have body : (respond page stats (text "/stats.json")).reply.body = text (String.ofList stats) := by
    rw [respond, if_pos rfl]
    rfl
  have status : (respond page stats (text "/stats.json")).reply.status = text "HTTP/1.1 200 OK" := by
    have line : "HTTP/1.1 " ++ toString (200 : Int) ++ " " ++ reason 200 = "HTTP/1.1 200 OK" := by
      decide
    rw [respond, if_pos rfl, Response.reply, line]
  rw [fetchStats, complete]
  simp only [Option.bind_eq_bind, Option.bind_some]
  rw [if_pos status, body, text, fromUTF8?_utf8, Option.bind_some, String.toList_ofList]

/-- A browser asks for the statistics at any time of any run. It reads the JSON
of a state that shows exactly the frames received, with the latencies of a while
ago, if the socket takes the whole answer; and nothing otherwise. -/
theorem Loop.stats_served {startedNs nextTick : UInt64} {before between : List Loop.Event}
    {earlier loop : Loop} {recvs : List Recv}
    (first : (Loop.system startedNs nextTick).run (Loop.start startedNs nextTick) before =
      some earlier)
    (second : (Loop.system startedNs nextTick).run earlier between = some loop)
    (asked : outcome recvs = .handled (text "/stats.json"))
    (doubles : Doubles) (port : UInt16) (now requests : UInt64) (page : List UInt8)
    (sends : List Send) :
    loop.state.Shows (seen (before ++ between)) ∧
      ∃ p stats, Samples.percentilesOf doubles.rank earlier.state.latency.values = some p ∧
        jsonStats doubles port earlier.state loop.state now = some stats ∧
        fetchStats (serveConnection (respond page stats) requests recvs sends).1 =
          if (respondTo (respond page stats (text "/stats.json"))).length ≤ taken sends then
            some (document doubles port p earlier.state.latency.spanNs loop.state now)
          else none := by
  have shown := Loop.shows_run (Loop.page_of_history first) second
  have all : seen before ++ seen between = seen (before ++ between) :=
    List.flatMap_append.symm
  rw [all] at shown
  rcases Loop.stats_of_run first second doubles port now with
    ⟨p, stats, found, told, parsed⟩
  refine ⟨shown, p, stats, found, told, ?_⟩
  have read := client_reads (respond page stats) (plain_respond page stats) requests recvs sends
  have sent : (serveOne (respond page stats) requests recvs).1 =
      some (respondTo (respond page stats (text "/stats.json"))) := by
    rw [serveOne, asked]
  have allowed : room (outcome recvs) sends = taken sends := by
    rw [room, asked, if_neg (by decide)]
  rw [sent, allowed, asked, Option.getD_some] at read
  split
  · rename_i whole
    rw [if_pos whole] at read
    rw [fetchStats_reply page read, parsed]
  · rename_i part
    rw [if_neg part] at read
    rw [fetchStats, read]
    rfl

/-- The statistics are asked for after the connection to the gateway has broken;
the socket takes all of the answer. -/
theorem Loop.stats_served_brokenConnection :
    ∃ earlier loop,
      (Loop.system 0 1000).run (Loop.start 0 1000) (brokenConnection.take 3) = some earlier ∧
      (Loop.system 0 1000).run earlier (brokenConnection.drop 3) = some loop ∧
      loop.state.Shows (seen (brokenConnection.take 3 ++ brokenConnection.drop 3)) ∧
      ∃ p stats, Samples.percentilesOf Doubles.exact.rank earlier.state.latency.values = some p ∧
        jsonStats Doubles.exact 9003 earlier.state loop.state 1200 = some stats ∧
        fetchStats (serveConnection (respond [] stats) 0
            [.data (text "GET /stats.json HTTP/1.1\r\n\r\n")] [.accepted 4095]).1 =
          if (respondTo (respond [] stats (text "/stats.json"))).length ≤ taken [.accepted 4095] then
            some (document Doubles.exact 9003 p earlier.state.latency.spanNs loop.state 1200)
          else none := by
  rcases brokenConnection_parts with ⟨earlier, loop, first, second⟩
  exact ⟨earlier, loop, first, second, Loop.stats_served first second (by decide +kernel)
    Doubles.exact 9003 1200 0 [] [.accepted 4095]⟩

end View

end TelemetryGateway
