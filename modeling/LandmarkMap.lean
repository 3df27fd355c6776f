import LandmarkMap.Geometry.Pose
import LandmarkMap.Geometry.Rays
import LandmarkMap.Geometry.Bearing
import LandmarkMap.Decimal.Shortest
import LandmarkMap.Json.Parser
import LandmarkMap.Json.Printer
import LandmarkMap.Camera.Rig
import LandmarkMap.Solver.Parameterization
import LandmarkMap.Solver.PosePrior
import LandmarkMap.Solver.Reprojection
import LandmarkMap.Solver.GradientCheck
import LandmarkMap.Solver.Quadratic
import LandmarkMap.Triangulation.Linear
import LandmarkMap.Map.Table
import LandmarkMap.Map.Basic
import LandmarkMap.Batch
import LandmarkMap.Map.Survey
import LandmarkMap.Map.Interpolation
import LandmarkMap.Quality.Evaluation
import LandmarkMap.Triangulation.Retriangulation
import LandmarkMap.Solver.LandmarkBlocks
import LandmarkMap.Cloud
import LandmarkMap.Scene.Check
import LandmarkMap.Config.Encode
import LandmarkMap.Main
import LandmarkMap.Proofs.Batches
import LandmarkMap.Proofs.ForkJoin
import LandmarkMap.Proofs.Map.Updates
import LandmarkMap.Proofs.Map.Passes
import LandmarkMap.Proofs.Map.Runs
import LandmarkMap.Proofs.Map.Consistency
import LandmarkMap.Proofs.Map.ObservationGraph
import LandmarkMap.Proofs.Quality.Labels
import LandmarkMap.Proofs.Map.PassFaults
import LandmarkMap.Proofs.Map.Selection
import LandmarkMap.Proofs.Quality.Evaluation
import LandmarkMap.Proofs.Triangulation.Retriangulation
import LandmarkMap.Proofs.Triangulation.Traceless
import LandmarkMap.Proofs.Map.PassAlgebra
import LandmarkMap.Proofs.Exact.Reals
import LandmarkMap.Proofs.Exact.Matrices
import LandmarkMap.Proofs.Exact.Rotations
import LandmarkMap.Proofs.Exact.Jacobians
import LandmarkMap.Proofs.Geometry.Poses
import LandmarkMap.Proofs.Solver.RowMajor
import LandmarkMap.Proofs.Solver.Slots
import LandmarkMap.Proofs.Solver.Updates
import LandmarkMap.Proofs.Geometry.Cholesky
import LandmarkMap.Proofs.Solver.PosePrior
import LandmarkMap.Proofs.Solver.Mahalanobis
import LandmarkMap.Proofs.Triangulation.LeastSquares
import LandmarkMap.Proofs.Camera.Distortion
import LandmarkMap.Proofs.Camera.Projection
import LandmarkMap.Proofs.Exact.Planes
import LandmarkMap.Proofs.Camera.BackProjection
import LandmarkMap.Proofs.Camera.Undistortion
import LandmarkMap.Proofs.Camera.MildLenses
import LandmarkMap.Proofs.Camera.ArcLenses
import LandmarkMap.Proofs.Camera.RoundTrip
import LandmarkMap.Proofs.Solver.Reprojection
import LandmarkMap.Proofs.Solver.Requests
import LandmarkMap.Proofs.Solver.LandmarkMotion
import LandmarkMap.Proofs.Solver.UpdateContract
import LandmarkMap.Proofs.Solver.ReprojectionJacobians
import LandmarkMap.Proofs.Triangulation.SingularValues
import LandmarkMap.Proofs.Triangulation.Sightings
import LandmarkMap.Proofs.Map.Provenance
import LandmarkMap.Proofs.Triangulation.Recovery
import LandmarkMap.Proofs.Map.Gauge
import LandmarkMap.Proofs.Geometry.Bearings
import LandmarkMap.Proofs.Solver.LandmarkBlocks
import LandmarkMap.Proofs.Solver.AnchoredPoints
import LandmarkMap.Proofs.Solver.BlockGeometry
import LandmarkMap.Proofs.Solver.GoodLandmarks
import LandmarkMap.Proofs.Geometry.Opposites
import LandmarkMap.Proofs.Solver.DoubleCover
import LandmarkMap.Proofs.Scene.Draws
import LandmarkMap.Proofs.Scene.Staging
import LandmarkMap.Proofs.Scene.Observing
import LandmarkMap.Proofs.Scene.Totality
import LandmarkMap.Proofs.Scene.WellFormed
import LandmarkMap.Proofs.Scene.Checks
import LandmarkMap.Proofs.Scene.Provenance
import LandmarkMap.Proofs.Cloud
import LandmarkMap.Proofs.Solver.GoodResiduals
import LandmarkMap.Proofs.Pipeline
import LandmarkMap.Proofs.Geometry.InverseDepths
import LandmarkMap.Proofs.Map.Rejections
import LandmarkMap.Proofs.Triangulation.RayAngles
import LandmarkMap.Proofs.Triangulation.CommonCenter
import LandmarkMap.Proofs.Doubles
import LandmarkMap.Proofs.Quality.Closest
import LandmarkMap.Proofs.Quality.Observers
import LandmarkMap.Proofs.Quality.Spread
import LandmarkMap.Proofs.Quality.Reference
import LandmarkMap.Proofs.Quality.ObserverOrder
import LandmarkMap.Proofs.Quality.BehindClosest
import LandmarkMap.Proofs.Quality.Monotone
import LandmarkMap.Proofs.Geometry.Interpolation
import LandmarkMap.Proofs.Geometry.HalfTurns
import LandmarkMap.Proofs.Map.TimeOrder
import LandmarkMap.Proofs.Map.Interpolation
import LandmarkMap.Proofs.Map.Knots
import LandmarkMap.Proofs.DoubleShapes
import LandmarkMap.Proofs.Geometry.FiniteFactors
import LandmarkMap.Proofs.Solver.CovarianceChecks
import LandmarkMap.Proofs.Solver.Calls
import LandmarkMap.Proofs.Solver.BufferSizes
import LandmarkMap.Proofs.Solver.GradientCalls
import LandmarkMap.Proofs.Solver.GradientRuns
import LandmarkMap.Proofs.Solver.GradientVerdict
import LandmarkMap.Proofs.Camera.ProjectionJacobians
import LandmarkMap.Proofs.Geometry.BearingChart
import LandmarkMap.Proofs.Geometry.ShortestArc
import LandmarkMap.Proofs.Solver.BlockLayout
import LandmarkMap.Proofs.BatchPartition
import LandmarkMap.Proofs.Triangulation.VertexScope
import LandmarkMap.Proofs.Map.SceneDepth
import LandmarkMap.Proofs.Map.Neighbours
import LandmarkMap.Proofs.CloudChannels
import LandmarkMap.Proofs.Geometry.Covariance
import LandmarkMap.Proofs.Map.PrincipalAxes
import LandmarkMap.Proofs.Config.Documents
import LandmarkMap.Proofs.Config.Decoders
import LandmarkMap.Proofs.Json.Grammar
import LandmarkMap.Proofs.Json.Tokens
import LandmarkMap.Proofs.Json.Reading
import LandmarkMap.Proofs.Config.Settings
import LandmarkMap.Proofs.Geometry.LiftedJacobians
import LandmarkMap.Proofs.Geometry.HalfLines
import LandmarkMap.Proofs.Geometry.PairwiseAngles
import LandmarkMap.Proofs.Scene.StridedNoise
