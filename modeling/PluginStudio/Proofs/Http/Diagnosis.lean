import PluginStudio.Proofs.Build.Stages
import PluginStudio.Proofs.Console
import PluginStudio.Proofs.Http.Boundary
import PluginStudio.Proofs.Json.Printing
import PluginStudio.Proofs.Request.Reading

/-
  What a client learns of a failure.

  Key definitions include:
    * `PluginStudio.Http.Conveys`

  Main declarations:
    * `Http.item_of_body`
    * `Http.conveys_object`
    * `Server.handle_of_failure`
    * `Server.failures_conveyed`

  A body conveys a text if it is an object with that text as its
  only item, however the object is taken apart.
-/

------------------------------------------------------------
-- Bodies Of Failures
------------------------------------------------------------

namespace PluginStudio

namespace Http

open Json PluginStudio.Request

/-
  The body is an object and nothing else, and whoever reads it
  finds one item in it, with the text under the name of errors.
-/
structure Conveys
    (body : Bytes)
    (s : String) : Prop where
  object : ∃ items, Body .object items [] body
  item :
    ∀ items after,
      Body .object items after body →
        after = [] ∧
          ∃ item,
            items = [item] ∧
              ∀ name t, item.Says name t ↔ name = "error" ∧ t = s

/-
  What is read of a printed entry is that entry, since names and
  texts end where the scanners find their ends.
-/
theorem says_of_opened
    {entry : String × String}
    {item : Item}
    (hFramed : item.Framed)
    (hValue : Value item.value)
    {rest rest' : Bytes}
    (hEq : opened item rest = opened (Printer.item entry) rest') :
    item.Says entry.1 entry.2 ∧ item.after ++ rest = rest' := by
  have hPrinted := Printer.framed_item entry
  have hSays := Printer.says_item entry
  rcases hSays.value with ⟨bytes, hSpelled, hQuoted⟩
  -- The name ends at the same quote.
  have hScan := Text.scan_spelled hSays.name
  rw [opened, opened] at hEq
  have hName := congrArg Text.scan hEq
  rw [hScan] at hName
  rcases hFramed.name.scan_ok_iff.mp hName with ⟨hItem, hColon⟩
  -- So does the colon, and then the text.
  have hAfter := congrArg colon hColon
  rw [colon_of_blanks hPrinted.between, colon_of_blanks hFramed.between,
    Except.ok.injEq, Prod.mk.injEq] at hAfter
  have hText := readText_spelled hPrinted.gap hSpelled
    ((Printer.item entry).after ++ rest')
  rw [← hQuoted, hAfter.2] at hText
  rcases readText_ok hFramed.gap hValue hText with ⟨hRest, hTells⟩
  exact ⟨⟨hItem, hTells⟩, hRest.symm⟩

/- A printed object of one entry can be taken apart in one way only. -/
theorem item_of_body
    {entry : String × String}
    {items : List Item}
    {after : Bytes}
    (hBody :
      Body .object items after
        (compound .object [] [Printer.item entry])) :
    after = [] ∧
      ∃ item, items = [item] ∧ item.Says entry.1 entry.2 := by
  have hPrinted :=
    Body.of_compound (Printer.compound_items .object [entry])
  rcases hPrinted.skipBlanks_eq with ⟨none, hNone, -, -, hOne⟩
  rcases hBody.skipBlanks_eq with
    ⟨blanks, hBlanks, hFramed, hValues, hSkip⟩
  rw [List.map_singleton] at hOne
  rw [hOne, List.cons.injEq] at hSkip
  have hFirst := congrArg (upcomingMember true) hSkip.2
  rw [upcomingMember_item hNone true (Printer.framed_item entry),
    Item.texts_nil, List.nil_append] at hFirst
  cases items with
  | nil =>
      rw [Item.texts_nil, List.nil_append,
        upcomingMember_close hBlanks] at hFirst
      contradiction
  | cons item items =>
      have hFramed' := hFramed item (by simp)
      rw [upcomingMember_item hBlanks true hFramed',
        Upcoming.member.injEq] at hFirst
      rcases says_of_opened hFramed' (hValues item (by simp))
          hFirst.symm with
        ⟨hSays, hRest⟩
      -- Nothing comes after the one item but the end.
      have hLast := congrArg (upcomingMember false) hRest
      have hClose := upcomingMember_close blanks_nil false []
      rw [List.nil_append] at hClose
      rw [hClose] at hLast
      cases items with
      | nil =>
          rw [Item.texts_nil, List.nil_append,
            upcomingMember_close hFramed'.after,
            Upcoming.finish.injEq] at hLast
          exact ⟨hLast, item, rfl, hSays⟩
      | cons second items =>
          rw [upcomingMember_item hFramed'.after false
            (hFramed second (by simp))] at hLast
          contradiction

theorem conveys_object (s : String) :
    Conveys (Utf8.encode (Printer.object [("error", s)])) s := by
  rw [Printer.encode_object]
  constructor
  · exact ⟨_, Body.of_compound (Printer.compound_items .object _)⟩
  · intro items after hBody
    rcases item_of_body hBody with ⟨hAfter, item, hItems, hSays⟩
    refine ⟨hAfter, item, hItems, ?_⟩
    intro name t
    constructor
    · intro hOther
      exact hOther.unique hSays
    · rintro ⟨rfl, rfl⟩
      exact hSays

end Http

end PluginStudio

------------------------------------------------------------
-- Failures Of Requests
------------------------------------------------------------

namespace PluginStudio

namespace Http

/- The answer to a failure has its status, and conveys its message. -/
theorem conveys_failure (failure : Build.Failure) :
    failure.response.withLength.status = failure.statusCode ∧
      Conveys failure.response.withLength.body failure.message := by
  have hBody :
      failure.response.withLength.body =
        Utf8.encode (Json.Printer.object [("error", failure.message)]) := by
    rw [Response.withLength, Response.withHeader, Build.Failure.response,
      Build.Failure.body]
  rw [hBody]
  exact ⟨rfl, conveys_object failure.message⟩

namespace Server

/- A request fails when it cannot be read, or when its build does. -/
def Fails
    (server : Server)
    (request : Request)
    (world : World)
    (failure : Build.Failure) : Prop :=
  Build.readRequest request.body = .error failure ∨
    ∃ plugin,
      Build.readRequest request.body = .ok plugin ∧
        (server.coordinator.build plugin (announced plugin world)).1 =
          .error failure

theorem handle_of_failure
    {server : Server}
    {request : Request}
    (hSubmitted : Submitted request)
    {world : World}
    {failure : Build.Failure}
    (hFails : server.Fails request world failure) :
    (server.handle request world).1 = failure.response.withLength := by
  rw [handle_apply, receive_of_submitted hSubmitted]
  rcases hFails with hRead | ⟨plugin, hRead, hBuilt⟩
  · rw [hRead]
  · rw [hRead]
    simp only
    rw [hBuilt]
    rfl

/- Whatever a request fails with is conveyed to the client. -/
theorem conveys_of_fails
    {server : Server}
    {request : Request}
    (hSubmitted : Submitted request)
    {world : World}
    {failure : Build.Failure}
    (hFails : server.Fails request world failure) :
    (server.handle request world).1.status = failure.statusCode ∧
      Conveys (server.handle request world).1.body failure.message := by
  rw [handle_of_failure hSubmitted hFails]
  exact conveys_failure failure

/- A tool that ends without success makes the request fail so. -/
theorem fails_of_unsuccessful
    {workspace staticDir : Path}
    {tool : Toolchain}
    {behave : Tool.Behaviour}
    {request : Request}
    {plugin : PluginStudio.Request}
    (hRead : Build.readRequest request.body = .ok plugin)
    {world after : World}
    {tree : Project.Tree}
    (hLaid :
      Project.materialize workspace plugin world = (.ok tree, after))
    {outcome : Tool.Outcome}
    (hLeft :
      (behave (tool.command (Project.dir workspace plugin))
        after.files world.dir).1 = .ok outcome)
    (hStatus : outcome.status.success = false) :
    Fails ⟨⟨workspace, tool, Tool.behaving behave⟩, staticDir⟩ request
      world
      (.unsuccessful outcome.status (Console.text outcome.output)) := by
  refine Or.inr ⟨plugin, hRead, ?_⟩
  have hAlike : (announced plugin world).Alike world := ⟨rfl, rfl, rfl⟩
  rcases (Project.unaware_materialize workspace plugin).same hAlike with
    ⟨hResult, hAfter⟩
  rcases hEq :
      Project.materialize workspace plugin (announced plugin world) with
    ⟨laid, after'⟩
  rw [hEq, hLaid] at hResult hAfter
  simp only at hResult hAfter
  rcases Coordinator.ends_build tool behave hEq with ⟨hEnds, -⟩
  rw [hAfter.files, hAlike.dir] at hEnds
  exact hEnds.eq_unsuccessful hResult hLeft hStatus

/-
  The client learns of every failure exactly what it says,
  whatever characters are in it.  Of a tool that ends without
  success it learns how the tool ended and what it wrote, word by
  word if that is well-formed Unicode.
-/
theorem failures_conveyed :
    (∀ s, Conveys (Utf8.encode (Json.Printer.object [("error", s)])) s) ∧
      (∀ (server : Server) (request : Request) (world : World)
          (failure : Build.Failure),
        Submitted request →
          server.Fails request world failure →
            let answer := (server.handle request world).1
            answer.status = failure.statusCode ∧
              Conveys answer.body failure.message) ∧
      ∀ (workspace staticDir : Path) (tool : Toolchain)
          (behave : Tool.Behaviour) (request : Request)
          (plugin : PluginStudio.Request) (world after : World)
          (tree : Project.Tree) (outcome : Tool.Outcome),
        Submitted request →
          Build.readRequest request.body = .ok plugin →
            Project.materialize workspace plugin world =
                (.ok tree, after) →
              (behave (tool.command (Project.dir workspace plugin))
                  after.files world.dir).1 = .ok outcome →
                outcome.status.success = false →
                  let server : Server :=
                    ⟨⟨workspace, tool, Tool.behaving behave⟩, staticDir⟩
                  let answer := (server.handle request world).1
                  answer.status = 500 ∧
                    Conveys answer.body
                      ("Maven build failed: " ++ outcome.status.message ++
                        "\n" ++ Console.text outcome.output) ∧
                    ∀ s,
                      outcome.output = Utf8.encode s →
                        Conveys answer.body
                          ("Maven build failed: " ++
                            outcome.status.message ++ "\n" ++ s) := by
  refine ⟨?_, ?_, ?_⟩
  · intro s
    exact conveys_object s
  · intro server request world failure hSubmitted hFails
    exact conveys_of_fails hSubmitted hFails
  · intro workspace staticDir tool behave request plugin world after tree
      outcome hSubmitted hRead hLaid hLeft hStatus
    dsimp only
    have hFails :
        Fails ⟨⟨workspace, tool, Tool.behaving behave⟩, staticDir⟩
          request world
          (.unsuccessful outcome.status (Console.text outcome.output)) :=
      fails_of_unsuccessful hRead hLaid hLeft hStatus
    rcases conveys_of_fails hSubmitted hFails with ⟨hCode, hConveys⟩
    refine ⟨hCode, hConveys, ?_⟩
    intro s hOutput
    rw [hOutput, Console.text_encode] at hConveys
    exact hConveys

/- A tool that ends without success, and not without quotes. -/
def complaining : Tool.Behaviour :=
  fun _ files _ =>
    (.ok ⟨.ofWait 256, Utf8.encode "\"\\\t😀"⟩, files)

theorem failures_conveyed_of_quotes :
    Conveys
        (idle.handle blank nowhere).1.body
        "invalid request: invalid JSON: EOF while parsing a value at line 1 column 0" ∧
      Conveys
        (handle
            ⟨⟨"/builds", .direct "mvn" "/maven",
              Tool.behaving complaining⟩, "/static"⟩
            nameless nowhere).1.body
        "Maven build failed: exit status: 1\n\"\\\t😀" := by
  have hBlank : Submitted blank := ⟨rfl, by decide +kernel, by decide⟩
  have hUnread :
      Build.readRequest blank.body =
        .error
          (.invalidRequest
            "invalid JSON: EOF while parsing a value at line 1 column 0") := by
    decide +kernel
  have hNameless : Submitted nameless :=
    ⟨rfl, by decide +kernel, by decide⟩
  have hPlugin : Build.readRequest nameless.body = .ok {} := by
    decide +kernel
  have hTree :
      (Project.materialize "/builds" {} nowhere).1 =
        .ok (Project.tree "/builds" {}) := by
    decide +kernel
  rcases hLaid : Project.materialize "/builds" {} nowhere with
    ⟨laid, after⟩
  rw [hLaid] at hTree
  simp only at hTree
  subst hTree
  rcases failures_conveyed with ⟨-, hFailure, hTool⟩
  constructor
  · exact (hFailure idle blank nowhere _ hBlank (Or.inl hUnread)).2
  · exact
      (hTool "/builds" "/static" (.direct "mvn" "/maven") complaining
        nameless {} nowhere _ _ _ hNameless hPlugin hLaid rfl
        (by decide)).2.2 "\"\\\t😀" rfl

end Server

end Http

end PluginStudio
