import Multimaster.Lib.Machine
import Multimaster.Lib.Entries
import Multimaster.Lib.Majority
import Multimaster.Lib.Rely
import Multimaster.Generation.Basic
import Multimaster.Generation.Switch
import Multimaster.Generation.Vote
import Multimaster.Generation.Receive
import Multimaster.Node.Defs
import Multimaster.Node.Safety
import Multimaster.Node.Programs
import Multimaster.Node.Invariant
import Multimaster.Node.Receive
import Multimaster.Election.Defs
import Multimaster.Election.Votes
import Multimaster.Election.Tally
import Multimaster.Election.Invariant
import Multimaster.Election.Unique
import Multimaster.Election.Donors
import Multimaster.Election.Progress
import Multimaster.Lib.ListOrder
import Multimaster.Replication.Defs
import Multimaster.Replication.Viable
import Multimaster.Replication.Invariant
import Multimaster.Replication.Steps
import Multimaster.Clog.Defs
import Multimaster.Clog.Invariant
import Multimaster.Clog.Order
import Multimaster.Gtx.Basic
import Multimaster.Status.Replier
import Multimaster.Status.DirectAbort
import Multimaster.Status.Requests
import Multimaster.Status.Answers
import Multimaster.Status.Live
import Multimaster.Lib.Synod
import Multimaster.Commit.Voting
import Multimaster.Commit.Ballots
import Multimaster.Commit.Rounds
import Multimaster.Commit.Defs
import Multimaster.Commit.Invariant
import Multimaster.Commit.Steps
import Multimaster.Commit.Agreement
import Multimaster.Gtx.Table
import Multimaster.Gtx.Exclusion
import Multimaster.Wal.Scan
import Multimaster.Wal.Areas
import Multimaster.Lib.Count
import Multimaster.Barrier.Defs
import Multimaster.Barrier.Exclusion
import Multimaster.Lib.Memory
import Multimaster.Pool.Queue
import Multimaster.Pool.Fifo
import Multimaster.Pool.Txlist
import Multimaster.Pool.Wakeup
import Multimaster.Lib.Linked
import Multimaster.Pool.Order
import Multimaster.Pool.Positions
import Multimaster.Pool.Capacity
import Multimaster.Pool.Waiters
import Multimaster.Syncpoint.Table
import Multimaster.Syncpoint.Horizon
import Multimaster.Syncpoint.Replica
import Multimaster.Syncpoint.Cleanup
import Multimaster.Recovery.Filter
import Multimaster.Stream.Defs
import Multimaster.Stream.Step
import Multimaster.Stream.Rows
import Multimaster.Waits.Defs
import Multimaster.Waits.Acyclic
import Multimaster.Referee.Defs
import Multimaster.Referee.Cluster
import Multimaster.Referee.SplitBrain
import Multimaster.Referee.Numbers
import Multimaster.Nodemask
import Multimaster.Lib.Incumbent
import Multimaster.Lib.MaximalClique
import Multimaster.Clique.Defs
import Multimaster.Clique.Masks
import Multimaster.Clique.Pivot
import Multimaster.Clique.Search
import Multimaster.Clique.Maximum
import Multimaster.Clique.Bounds
import Multimaster.Clique.Connectivity
import Multimaster.Gather.Defs
import Multimaster.Gather.Loop
import Multimaster.Gather.Prepare
import Multimaster.Receivers.Defs
import Multimaster.Receivers.Exclusion
import Multimaster.Sender.Defs
import Multimaster.Sender.Configure
import Multimaster.Sender.Counter
import Multimaster.Sender.Mask
import Multimaster.Sender.WaitSet
import Multimaster.Subscription.Defs
import Multimaster.Subscription.Hygiene
import Multimaster.Routing.Defs
import Multimaster.Routing.Ids
import Multimaster.Routing.Served
import Multimaster.Routing.Attached
import Multimaster.Routing.Log
import Multimaster.Routing.Delivery
import Multimaster.Lib.Wire
import Multimaster.Wal.Terminate
import Multimaster.Apply.Insert
import Multimaster.Apply.Bulk
import Multimaster.Apply.Executor
import Multimaster.Apply.Cleanup
import Multimaster.Message.Defs
import Multimaster.Message.RoundTrip
import Multimaster.Tuple.Defs
import Multimaster.Tuple.RoundTrip
import Multimaster.Spill.Defs
import Multimaster.Spill.Executor
import Multimaster.Spill.Receiver
import Multimaster.Spill.Serial
import Multimaster.Framing.Buffer
import Multimaster.Framing.Delivery
import Multimaster.Lib.Numerals
import Multimaster.Lib.Scanf
import Multimaster.Gtx.Xstate
import Multimaster.Gtx.Gid
import Multimaster.Framing.Sizes
import Multimaster.Lib.Ledger
import Multimaster.Config.Reload
import Multimaster.Lib.Routine
import Multimaster.Barrier.Routines
import Multimaster.Barrier.Programs
import Multimaster.Barrier.Modes
import Multimaster.Barrier.Released
import Multimaster.Sequences.Defs
import Multimaster.Sequences.Separate
import Multimaster.Events.Defs
import Multimaster.Events.Agreement
import Multimaster.Output.Defs
import Multimaster.Output.Packets
import Multimaster.Rows.Defs
import Multimaster.Rows.Contents
import Multimaster.Rows.Records
import Multimaster.Rows.Follow
import Multimaster.Pool.Entries
import Multimaster.Syncpoint.Applying
import Multimaster.Syncpoint.Barrier
import Multimaster.Syncpoint.Registered
import Multimaster.Syncpoint.Meaning
import Multimaster.Ddl.Capture
import Multimaster.Ddl.Replay
import Multimaster.Ddl.Decode
import Multimaster.Wal.Complete
import Multimaster.Ddl.Failure
import Multimaster.Ddl.Relog
import Multimaster.Rows.Transactions
