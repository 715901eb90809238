import Bluge.Search.Match
import Bluge.Collector.Store
import Bluge.Collector.TopN
import Bluge.Collector.Shortcut
import Bluge.Collector.Results
import Bluge.Collector.Pool
import Bluge.Collector.Pipeline
import Bluge.Collector.Protocol
import Bluge.Collector.Shutdown
import Bluge.Collector.Reference
import Bluge.MultiSearch
import Bluge.Collector.Refinement
import Bluge.Collector.Ranking
import Bluge.MultiSearchCollect
import Bluge.MultiSearchShutdown
import Bluge.Index.Config
