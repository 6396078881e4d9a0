import Montage.Download.Transfer
import Montage.Proofs.Work.Transcript

/-! # Transfers do without the engine

A download asks for files, requests and pieces of responses, and tells what it does, but it never starts
the engine.
-/

namespace Montage

namespace Work.NeverLaunches

theorem makeDirectories (path : Path) : (Work.makeDirectories path).NeverLaunches :=
  bind (perform rfl) fun _ => ofExcept _ _

theorem create (path : Path) : (Work.create path).NeverLaunches :=
  bind (perform rfl) fun _ => ofExcept _ _

theorem extend (number : Nat) (piece : ByteArray) : (Work.extend number piece).NeverLaunches :=
  perform rfl

theorem rename (path target : Path) : (Work.rename path target).NeverLaunches :=
  bind (perform rfl) fun _ => ofExcept _ _

theorem isFile (path : Path) : (Work.isFile path).NeverLaunches :=
  bind (perform rfl) fun _ => ofExcept _ _

theorem request (url : String) (redirects : List String) :
    (Work.request url redirects).NeverLaunches :=
  bind (perform rfl) fun _ => ofAwaited _

theorem receive : Work.receive.NeverLaunches := bind (perform rfl) fun _ => ofAwaited _

end Work.NeverLaunches

namespace Download

open Work.NeverLaunches (bind ofExcept perform)

theorem discard_neverLaunches (failure : Option String) (pieces : List ByteArray) :
    (discard failure pieces).NeverLaunches := by
  induction pieces with
  | nil =>
    refine bind .receive fun _ => ?_
    cases failure with
    | none => exact .done ()
    | some reason => exact .failed _
  | cons piece rest ih => exact bind .receive fun _ => ih

theorem checkTarget_neverLaunches (target : String) : (checkTarget target).NeverLaunches := by
  unfold checkTarget
  split
  · exact .failed _
  · exact ofExcept _ _

theorem request_neverLaunches (url : String) (left : Nat) (redirects : List String) :
    (request url left redirects).NeverLaunches := by
  induction left generalizing redirects with
  | zero => exact .failed _
  | succ left ih =>
    refine bind (.request url redirects) fun exchange => bind (ofExcept _ _) fun _ => ?_
    cases exchange.received with
    | error reason => exact .failed _
    | ok response =>
      refine bind (ofExcept _ _) fun _ => ?_
      cases response.redirect? with
      | none => exact .done response
      | some target =>
        exact bind (checkTarget_neverLaunches target) fun _ =>
          bind (discard_neverLaunches _ _) fun _ => ih _

theorem checkDeclared_neverLaunches (store : Store) (response : Response) :
    (checkDeclared store response).NeverLaunches := by
  have declared : (declaredSize response).NeverLaunches := by
    unfold declaredSize
    split
    · split
      · exact bind (ofExcept _ _) fun _ => .done _
      · exact .done none
    · exact .done none
  refine bind declared fun size => ?_
  cases size with
  | none => exact .done ()
  | some size =>
    dsimp only
    split
    · exact bind (ofExcept _ _) fun _ => .failed _
    · exact .done ()

theorem writeBody_neverLaunches (store : Store) (number : Nat) (failure : Option String) (size : Nat)
    (pieces : List ByteArray) : (writeBody store number failure size pieces).NeverLaunches := by
  induction pieces generalizing size with
  | nil =>
    refine bind .receive fun _ => ?_
    cases failure with
    | none => exact .done size
    | some reason => exact .failed _
  | cons piece rest ih =>
    refine bind .receive fun _ => ?_
    dsimp only
    split
    · exact .failed _
    · exact bind (.extend number piece) fun _ => ih _

theorem storeBody_neverLaunches (store : Store) (path : Path) (response : Response) :
    (storeBody store path response).NeverLaunches := by
  have named : (partialPath path).NeverLaunches := by
    unfold partialPath
    split
    · exact .failed _
    · exact .done _
  refine bind named fun temporary => .ensuring (perform rfl) ?_
  exact bind (.create _) fun _ => bind (writeBody_neverLaunches _ _ _ _ _) fun _ =>
    bind (.rename _ _) fun _ => .done _

theorem storeResponse_neverLaunches (store : Store) (name : String) (response : Response) :
    (storeResponse store name response).NeverLaunches := by
  refine bind (.isFile _) fun there => ?_
  cases there with
  | true =>
    exact bind (.emit _ _ _) fun _ => bind (perform rfl) fun _ => bind (ofExcept _ _) fun _ => .done _
  | false =>
    exact bind (checkDeclared_neverLaunches store response) fun _ => bind (.emit _ _ _) fun _ =>
      bind (storeBody_neverLaunches _ _ _) fun _ => bind (.emit _ _ _) fun _ => .done _

/-- A download never starts the engine, whatever it meets. -/
theorem transfer_neverLaunches (store : Store) (url : String) :
    (transfer store url).NeverLaunches := by
  refine bind (.makeDirectories _) fun _ => bind (.emit _ _ _) fun _ => bind (ofExcept _ _) fun _ =>
    bind (request_neverLaunches _ _ _) fun response => ?_
  split
  · exact bind (ofExcept _ _) fun name => bind (.emit _ _ _) fun _ =>
      storeResponse_neverLaunches store name response
  · exact .failed _

end Download

end Montage
