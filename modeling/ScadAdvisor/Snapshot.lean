import ScadAdvisor.Text.Basic

/-! # Snapshots of a source -/

namespace ScadAdvisor

structure Snapshot where
  path : Text
  version : Int
  text : Text
deriving DecidableEq, Repr

def snapshotKey (path : Text) (version : Int) : Text := path ++ ':' :: Text.ofInt version

def Snapshot.key (snapshot : Snapshot) : Text := snapshotKey snapshot.path snapshot.version

end ScadAdvisor
