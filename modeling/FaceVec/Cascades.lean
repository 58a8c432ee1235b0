import FaceVec.Database

/-!
Deletes with the cascades that `prisma/schema.prisma` declares: a course takes
its enrollments, sessions, records and import jobs along, a student the faces,
enrollments and records, whatever course those belong to.
-/

namespace FaceVec

variable {K : Type}

def sessionsOf (db : Database K) (courseId : Uuid) : List Uuid :=
  (db.attendanceSessions.rows.filter (·.courseId == courseId)).map (·.id)

def deleteCourse (id : Uuid) (db : Database K) : Database K :=
  { db with
    courses := db.courses.delete (·.id == id)
    courseEnrollments := db.courseEnrollments.delete (·.courseId == id)
    importJobs := db.importJobs.delete (·.courseId == id)
    attendanceSessions := db.attendanceSessions.delete (·.courseId == id)
    attendanceRecords :=
      db.attendanceRecords.delete fun row => (sessionsOf db id).contains row.sessionId }

def deleteStudent (id : Uuid) (db : Database K) : Database K :=
  { db with
    students := db.students.delete (·.id == id)
    faceEmbeddings := db.faceEmbeddings.delete (·.studentId == id)
    courseEnrollments := db.courseEnrollments.delete (·.studentId == id)
    attendanceRecords := db.attendanceRecords.delete (·.studentId == id) }

end FaceVec
