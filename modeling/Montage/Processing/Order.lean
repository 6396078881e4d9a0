import Montage.Job.Workshop
import Montage.Processing.Compose
import Montage.Processing.Compress

/-! # Orders

An order is what a client asks to have done. It fixes the kind of the job and the work that the job
does.
-/

namespace Montage

/-- What a client asks to have done. -/
inductive Order where
  | compose (job : ComposeJob)
  | compressVideo (job : CompressVideoJob)
  | compressImage (job : CompressImageJob)

namespace Order

/-- The kind of job that an order becomes. -/
def kind : Order → JobKind
  | .compose _ => .compose
  | .compressVideo _ => .compressVideo
  | .compressImage _ => .compressImage

/-- The work of the job that an order becomes. -/
def work (settings : Settings) (jobId : String) : Order → Work Json
  | .compose job =>
    Processing.compose settings (fun files => (AssetLibrary.ofSettings settings files).resolver) job
      jobId
  | .compressVideo job => Processing.compressVideo settings job
  | .compressImage job => Processing.compressImage settings job

end Order

/-- Takes an order and answers the id of its job. -/
def Workshop.order (workshop : Workshop) (settings : Settings) (order : Order) : Workshop × String :=
  workshop.submit order.kind fun jobId => order.work settings jobId

end Montage
