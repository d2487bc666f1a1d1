import AccessList.Flatten.Stage

/-! Flattening as a composition of stages over a list of records, each stage in full before the next.
Which stages run is a matter of switches, all of them on to begin with. -/
namespace AccessList

structure Switches where
  network : Bool := true
  protocol : Bool := true
  service : Bool := true
  port : Bool := true
  icmpType : Bool := true
  deriving DecidableEq, Repr

namespace Switches

def isOn (w : Switches) : Stage → Bool
  | .network => w.network
  | .protocol => w.protocol
  | .service => w.service
  | .port => w.port
  | .icmpType => w.icmpType

def set (w : Switches) (stage : Stage) (on : Bool) : Switches :=
  match stage with
  | .network => { w with network := on }
  | .protocol => { w with protocol := on }
  | .service => { w with service := on }
  | .port => { w with port := on }
  | .icmpType => { w with icmpType := on }

theorem isOn_set (w : Switches) (stage other : Stage) (on : Bool) :
    (w.set stage on).isOn other = if other = stage then on else w.isOn other := by
  cases stage <;> cases other <;> rfl

def enabled (w : Switches) : List Stage := Stage.all.filter w.isOn

end Switches

def Stage.expandAll (s : Symbols) (records : List Record) (stage : Stage) : List Record :=
  records.flatMap (stage.expand s)

def flatten (s : Symbols) (stages : List Stage) (records : List Record) : List Record :=
  stages.foldl (Stage.expandAll s) records

end AccessList
