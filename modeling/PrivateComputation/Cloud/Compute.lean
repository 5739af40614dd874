import PrivateComputation.Cloud.Tags
import PrivateComputation.Json.Sorted

/-!
Compute resources: clusters, container definitions, task roles and log groups.
-/

namespace PrivateComputation

inductive ClusterStatus where
  | active
  | inactive
  | unknown
  deriving DecidableEq

structure Cluster where
  arn : String
  name : String
  status : ClusterStatus
  tags : Tags
  deriving DecidableEq

instance : Tagged Cluster := ⟨Cluster.tags⟩

structure ContainerDefinition where
  id : String
  image : String
  cpu : UInt32
  memory : UInt32
  entryPoint : List String
  environment : SortedMap String
  taskRoleId : String
  tags : Tags
  deriving DecidableEq

instance : Tagged ContainerDefinition := ⟨ContainerDefinition.tags⟩

structure IamRole where
  id : String
  policies : SortedMap SortedJson

structure LogGroup where
  name : String
  deriving DecidableEq

end PrivateComputation
