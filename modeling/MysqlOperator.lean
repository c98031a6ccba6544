import MysqlOperator.Format
import MysqlOperator.Api.Types
import MysqlOperator.Api.Defaults
import MysqlOperator.Api.Defaulted
import MysqlOperator.Api.Topology
import MysqlOperator.Cluster.Sync
import MysqlOperator.Cluster.Orchestrator
import MysqlOperator.Cluster.Owners
