import Aimbots.Library.LabelCorrecting
import Aimbots.Pathfinding.PrioQueue
import Aimbots.Pathfinding.AStar
import Aimbots.Jetson.Communicator
import Aimbots.Pathfinding.AStarOptimal
import Aimbots.Jetson.Stream
import Aimbots.Library.Rounding
import Aimbots.RefSystem.RefHelperTurreted
import Aimbots.Feeder.AutoFeederCommands
import Aimbots.Tap.Can
import Aimbots.TurretComms.AngleMessage
import Aimbots.TurretComms.Sender
import Aimbots.TurretComms.Receiver
import Aimbots.TurretComms.Assembly
import Aimbots.Ballistics.BallisticsSolver
import Aimbots.BarrelManager.BarrelManagerSubsystem
import Aimbots.BarrelManager.BarrelSwapCommand
import Aimbots.Feeder.BarrelSwappingFeederCommand
import Aimbots.BarrelManager.BarrelSwapRun
import Aimbots.Library.ConvexPolygon
import Aimbots.Pathfinding.VizGraph
import Aimbots.Pathfinding.LineOfSight
import Aimbots.Pathfinding.VizGraphSafe
import Aimbots.TurretComms.Request
import Aimbots.Library.Numerals
import Aimbots.Library.MonotoneInverse
import Aimbots.Library.RigidMotion
import Aimbots.Kinematics.CoordinateFrame
import Aimbots.Chassis.ChassisSubsystem
import Aimbots.Library.Trapezoid
import Aimbots.Library.TruncatedRemainder
import Aimbots.Tap.WrappedFloat
import Aimbots.Gimbal.GimbalSubsystem
import Aimbots.Utils.PowerLimiter
import Aimbots.Utils.SettledUtil
import Aimbots.Utils.SmoothPidWrap
import Aimbots.Chassis.ChassisAutoNavCommand
import Aimbots.Chassis.AutoNavTimers
import Aimbots.Chassis.SentryMatchChassisControlCommand
import Aimbots.Chassis.SentryMatchRun
import Aimbots.Gimbal.GimbalPatrolCommand
import Aimbots.Motion.SCurveAcceleration
import Aimbots.Motion.SCurveMotionProfile
import Aimbots.Motion.SCurveMotion
import Aimbots.Hopper.HopperCommands
import Aimbots.Feeder.FeederLimitCommand
import Aimbots.Feeder.FeederCommandRun
import Aimbots.Feeder.FeederLimitWindow
import Aimbots.Communication.CommunicationRequestTransmiter
import Aimbots.Feeder.SentryMatchFiringControlCommand
import Aimbots.Gimbal.SentryMatchGimbalControlCommand
import Aimbots.Chassis.ChassisToggleDriveCommand
import Aimbots.Gimbal.GimbalToggleAimCommand
import Aimbots.Kinematics.OrientationHistory
import Aimbots.Kinematics.KinematicInformant
import Aimbots.Motion.SCurveLimits
import Aimbots.Ballistics.FiringAngle
import Aimbots.Ballistics.YawSolution
import Aimbots.Ballistics.NoSolution
import Aimbots.Pathfinding.VizGraphQuery
import Aimbots.Kinematics.EnemyDataConversion
import Aimbots.Gimbal.GimbalChassisRelativeController
import Aimbots.Informants.IMUCalibrateCommand
import Aimbots.Gimbal.YawAxis
import Aimbots.Chassis.RotationLimit
import Aimbots.Gimbal.GimbalFieldRelativeController
import Aimbots.Chassis.ChassisPowerLimit
import Aimbots.Chassis.SwerveSteering
import Aimbots.Chassis.SnapPositions
import Aimbots.RefSystem.ProjectileLaunchSpeedPredictor
import Aimbots.RefSystem.HeatGates
import Aimbots.BarrelManager.BarrelSwapHeat
import Aimbots.BarrelManager.FindZeroPosition
import Aimbots.Pathfinding.PrioQueueRun
import Aimbots.Filters.KinematicKalman
import Aimbots.Odometry.ChassisKFOdometry
import Aimbots.Informants.HitTracker
import Aimbots.Shooter.ShooterSubsystem
import Aimbots.Utils.SmoothPidDerivative
import Aimbots.Kinematics.ChassisPitch
import Aimbots.Kinematics.ImuAxes
import Aimbots.Music.JukeboxPlayer
import Aimbots.Music.JukeboxRun
import Aimbots.Slide.SlideSubsystem
import Aimbots.Library.Crc
import Aimbots.Tap.Crc
import Aimbots.Library.PrefixDecoder
import Aimbots.Tap.DjiSerial
import Aimbots.Tap.DjiSerialChecks
import Aimbots.Tap.DjiSerialReceiver
import Aimbots.Tap.RefSerial
import Aimbots.Tap.RefSerialTransmitter
import Aimbots.Tap.DjiMotorEncoder
import Aimbots.Tap.DjiMotorTxHandler
import Aimbots.Library.Bitmap
import Aimbots.Tap.BitmapScheduler
import Aimbots.Tap.SchedulerLifecycle
import Aimbots.Tap.SchedulerRegistrar
import Aimbots.Tap.SchedulerRun
import Aimbots.Tap.SchedulerSets
import Aimbots.Library.BitField
import Aimbots.Tap.CommandMapper
import Aimbots.Tap.CommandMapperRun
import Aimbots.Tap.Remote
import Aimbots.Tap.RemoteControl
import Aimbots.Filters.SlidingDft
import Aimbots.Tap.ErrorController
import Aimbots.Tap.Ramp
import Aimbots.Control.OperatorInterface
