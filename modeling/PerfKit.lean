import PerfKit.Python.Basic
import PerfKit.Python.Str
import PerfKit.Python.Dict
import PerfKit.StressNg.Parse
import PerfKit.StressNg.Flags
import PerfKit.StressNg.Workload
import PerfKit.StressNg.Report
import PerfKit.StressNg.Run
import PerfKit.Aerospike.Flags
import PerfKit.Aerospike.Config
import PerfKit.Aerospike.Prepare
import PerfKit.Aerospike.Load
import PerfKit.Aerospike.Run
import PerfKit.Aerospike.Execution
import PerfKit.Aerospike.Samples
